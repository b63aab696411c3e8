import XdsService.Foundation.JsonPlain
import XdsService.Foundation.Stringify

/-!
# Texts that are read back

The text that is written for a value is read as that value, on one line or on
many.  What a number needs for this is asked of the numbers in the value.
-/

namespace XdsService
namespace Foundation
namespace RoundTrip

open JsonText
open Stringify

/-!
## Numbers
-/

/-- No number goes on with these characters. -/
def EndsNumber (rest : List Char) : Prop :=
  forall c, rest.head? = some c ->
    c.isDigit = false ∧ c ≠ '.' ∧ c ≠ 'e' ∧ c ≠ 'E'

/-- The text is read as this number wherever it ends. -/
def ReadsBack (text : List Char) (value : Json) : Prop :=
  forall rest, EndsNumber rest -> readNumber (text ++ rest) = some (value, rest)

mutual

/-- Every number in the value is read back. -/
def Readable (number : Int -> Int -> List Char) : Json -> Prop
  | Json.int value => ReadsBack (number value 0) (Json.int value)
  | Json.double mantissa exponent =>
      ReadsBack (number mantissa exponent) (Json.double mantissa exponent)
  | Json.array items => ReadableItems number items
  | Json.object members => ReadableMembers number members
  | _ => True

def ReadableItems (number : Int -> Int -> List Char) : List Json -> Prop
  | [] => True
  | item :: rest => Readable number item ∧ ReadableItems number rest

def ReadableMembers (number : Int -> Int -> List Char) :
    List (String × Json) -> Prop
  | [] => True
  | (_, value) :: rest => Readable number value ∧ ReadableMembers number rest

end

theorem endsNumber_nil : EndsNumber [] := by
  intro c hc
  cases hc

theorem endsNumber_cons {c : Char} (rest : List Char)
    (h : c.isDigit = false ∧ c ≠ '.' ∧ c ≠ 'e' ∧ c ≠ 'E') :
    EndsNumber (c :: rest) := by
  intro d hd
  cases hd
  exact h

theorem readDigits_append {digits rest : List Char} (hne : digits ≠ [])
    (hdigits : forall c, c ∈ digits -> c.isDigit = true)
    (hrest : forall c, rest.head? = some c -> c.isDigit = false) :
    readDigits (digits ++ rest) = some (digits, rest) := by
  have htake : rest.takeWhile Char.isDigit = [] := by
    cases rest with
    | nil => rfl
    | cons c rest => simp [hrest c rfl]
  have hdrop : rest.dropWhile Char.isDigit = rest := by
    cases rest with
    | nil => rfl
    | cons c rest => simp [hrest c rfl]
  unfold readDigits
  rw [List.takeWhile_append_of_pos hdigits, List.dropWhile_append_of_pos hdigits,
    htake, hdrop, List.append_nil, if_neg]
  simp [hne]

/-- The first character of a number that is read back. -/
theorem head_of_readsBack {text : List Char} {value : Json}
    (h : ReadsBack text value) :
    exists c rest, text = c :: rest ∧ (c = '-' ∨ c.isDigit = true) := by
  have hread := h [] endsNumber_nil
  rw [List.append_nil] at hread
  cases text with
  | nil => cases hread
  | cons c rest =>
      refine ⟨c, rest, rfl, ?_⟩
      by_contra hnot
      rw [not_or] at hnot
      have hunsigned : readNumber (c :: rest) = readUnsigned 1 (c :: rest) := by
        unfold readNumber
        split
        · rename_i heq
          cases heq
          exact absurd rfl hnot.left
        · rfl
      have hdigits : readDigits (c :: rest) = none := by
        simp [readDigits, hnot.right]
      rw [hunsigned, readUnsigned, hdigits] at hread
      cases hread

theorem readFraction_of_endsNumber {rest : List Char} (h : EndsNumber rest) :
    readFraction rest = some ([], rest) := by
  unfold readFraction
  split
  · exact absurd rfl (h _ rfl).right.left
  · rfl

theorem readScale_of_endsNumber {rest : List Char} (h : EndsNumber rest) :
    readScale rest = some (none, rest) := by
  unfold readScale
  split
  · exact absurd rfl (h _ rfl).right.right.left
  · exact absurd rfl (h _ rfl).right.right.right
  · rfl

/-!
## Whole numbers
-/

theorem head?_toDigits {n : Nat}
    (h : (Nat.toDigits 10 n).head? = some '0') :
    (Nat.toDigits 10 n).length = 1 := by
  induction n using Nat.strong_induction_on with
  | _ n ih =>
      by_cases hlt : n < 10
      · rw [Nat.toDigits_of_lt_base hlt]
        rfl
      · have hle := Nat.not_lt.mp hlt
        have hpos : 0 < n / 10 := Nat.div_pos hle (by decide)
        have hfront := Nat.toDigits_ne_nil (n := n / 10) (b := 10)
        rw [Nat.toDigits_of_base_le (by decide) hle,
          List.head?_append_of_ne_nil _ hfront] at h
        have hone := ih (n / 10) (Nat.div_lt_self (by omega) (by decide)) h
        rcases List.length_eq_one_iff.mp hone with ⟨c, hc⟩
        rw [hc] at h
        cases h
        have hvalue := Nat.ofDigitChars_ten_toDigits (n := n / 10)
        rw [hc] at hvalue
        exact absurd (hvalue ▸ hpos) (by decide)

theorem readUnsigned_toDigits (sign : Int) (n : Nat) {rest : List Char}
    (hrest : EndsNumber rest) :
    readUnsigned sign (Nat.toDigits 10 n ++ rest) =
      some (Json.int (sign * n), rest) := by
  have hdigits : readDigits (Nat.toDigits 10 n ++ rest) =
      some (Nat.toDigits 10 n, rest) :=
    readDigits_append Nat.toDigits_ne_nil
      (fun c hc => Nat.isDigit_of_mem_toDigits (by decide) (by decide) hc)
      (fun c hc => (hrest c hc).left)
  have hzero : ¬ ((Nat.toDigits 10 n).head? = some '0' ∧
      1 < (Nat.toDigits 10 n).length) := by
    rintro ⟨hhead, hlength⟩
    rw [head?_toDigits hhead] at hlength
    exact absurd hlength (by decide)
  have hvalue : digitsValue (Nat.toDigits 10 n) = n :=
    Nat.ofDigitChars_eq_foldl.symm.trans Nat.ofDigitChars_ten_toDigits
  unfold readUnsigned
  rw [hdigits]
  show (if _ ∧ _ then none else _) = _
  rw [if_neg hzero]
  show (readFraction rest).bind _ = _
  rw [readFraction_of_endsNumber hrest]
  show (readScale rest).bind _ = _
  rw [readScale_of_endsNumber hrest]
  show some (Json.int (sign * (digitsValue (Nat.toDigits 10 n) : Nat)), rest) = _
  rw [hvalue]

theorem toList_toString_int (value : Int) :
    (toString value).toList =
      if value < 0 then '-' :: Nat.toDigits 10 value.natAbs
      else Nat.toDigits 10 value.natAbs := by
  rw [Int.toString_eq_repr]
  cases value with
  | ofNat n =>
      rw [if_neg (by simp)]
      exact Nat.toList_repr
  | negSucc n =>
      rw [if_pos (Int.negSucc_lt_zero n), Int.repr, String.toList_append,
        Nat.toList_repr]
      rfl

/-- The decimal text of a whole number is read back. -/
theorem readsBack_toString (value : Int) :
    ReadsBack (toString value).toList (Json.int value) := by
  intro rest hrest
  rw [toList_toString_int]
  split
  · rename_i hneg
    show readUnsigned (-1) (Nat.toDigits 10 value.natAbs ++ rest) = _
    rw [readUnsigned_toDigits _ _ hrest]
    congr 3
    omega
  · rename_i hpos
    have hread := readUnsigned_toDigits 1 value.natAbs hrest
    have hunsigned : readNumber (Nat.toDigits 10 value.natAbs ++ rest) =
        readUnsigned 1 (Nat.toDigits 10 value.natAbs ++ rest) := by
      unfold readNumber
      split
      · rename_i heq
        have hhead := List.mem_of_mem_head? (List.head?_append_of_ne_nil
          (Nat.toDigits 10 value.natAbs) Nat.toDigits_ne_nil ▸
            congrArg List.head? heq)
        exact absurd (Nat.isDigit_of_mem_toDigits (by decide) (by decide)
          hhead) (by decide)
      · rfl
    rw [hunsigned, hread]
    congr 3
    omega

/-!
## Strings
-/

theorem hexDigit?_digitChar {n : Nat} (h : n < 16) :
    hexDigit? (Nat.digitChar n) = some n := by
  have hall : forall n, n < 16 -> hexDigit? (Nat.digitChar n) = some n := by
    decide
  exact hall n h

theorem hexUnit?_control {n : Nat} (h : n < 32) :
    hexUnit? '0' '0' (Nat.digitChar (n / 16)) (Nat.digitChar (n % 16)) =
      some n := by
  have hhigh := hexDigit?_digitChar (n := n / 16) (by omega)
  have hlow := hexDigit?_digitChar (n := n % 16) (by omega)
  have hzero : hexDigit? '0' = some 0 := by decide
  simp only [hexUnit?, hzero, hhigh, hlow, Option.bind_eq_bind,
    Option.bind_some]
  congr 1
  omega

theorem quoteChar_of_plainChar {c : Char} (h : PlainChar c) :
    quoteChar c = [c] := by
  rcases plainChar_iff.mp h with ⟨hquote, hescape, hcontrol⟩
  have hne : forall d : Char, d.toNat < 32 -> c ≠ d := by
    rintro d hd rfl
    exact absurd hcontrol (Nat.not_le.mpr hd)
  unfold quoteChar
  rw [if_neg hquote, if_neg hescape, if_neg (by omega),
    if_neg (hne '\t' (by decide)), if_neg (hne '\n' (by decide)),
    if_neg (by omega), if_neg (hne '\r' (by decide)), if_neg (by omega)]

/-- An escape of one letter is read as the unit it stands for. -/
theorem readUnits_letter {letter : Char} {unit : Nat}
    (hletter : unescape? letter = some unit) (hnot : letter ≠ 'u')
    (cs : List Char) :
    readUnits ('\\' :: letter :: cs) = (readUnits cs).bind fun units =>
      some (unit :: units.1, units.2) := by
  rw [readUnits.eq_def]
  split
  · rename_i heq
    cases heq
  · rename_i heq
    cases heq
  · rename_i heq
    cases heq
    exact absurd rfl hnot
  · rename_i heq
    cases heq
    rw [hletter]
    rfl
  · rename_i hother heq
    cases heq
    exact (hother letter cs rfl rfl).elim

/-- The text of a character is read as its unit. -/
theorem readUnits_quoteChar (c : Char) (cs : List Char) :
    readUnits (quoteChar c ++ cs) = (readUnits cs).bind fun units =>
      some (c.toNat :: units.1, units.2) := by
  by_cases hplain : PlainChar c
  · rw [quoteChar_of_plainChar hplain]
    exact readUnits_cons_of_plainChar hplain cs
  · unfold quoteChar
    split_ifs with hquote hescape hb ht hn hf hr hcontrol
    · subst hquote
      exact readUnits_letter (by decide) (by decide) cs
    · subst hescape
      exact readUnits_letter (by decide) (by decide) cs
    · rw [hb]
      exact readUnits_letter (by decide) (by decide) cs
    · subst ht
      exact readUnits_letter (by decide) (by decide) cs
    · subst hn
      exact readUnits_letter (by decide) (by decide) cs
    · rw [hf]
      exact readUnits_letter (by decide) (by decide) cs
    · subst hr
      exact readUnits_letter (by decide) (by decide) cs
    · show (hexUnit? '0' '0' _ _).bind _ = _
      rw [hexUnit?_control hcontrol]
      rfl
    · exact absurd (plainChar_iff.mpr ⟨hquote, hescape, Nat.not_lt.mp hcontrol⟩)
        hplain

theorem readUnits_quoted (cs rest : List Char) :
    readUnits (cs.flatMap quoteChar ++ '"' :: rest) =
      some (cs.map Char.toNat, rest) := by
  induction cs with
  | nil => rfl
  | cons c cs ih =>
      rw [List.flatMap_cons, List.append_assoc, readUnits_quoteChar, ih]
      rfl

/-- A quoted string is read as the string. -/
theorem readString_quoted (text : String) (rest : List Char) :
    readString (text.toList.flatMap quoteChar ++ '"' :: rest) =
      some (text, rest) := by
  unfold readString
  rw [readUnits_quoted, Option.map_some, joinUnits_map_toNat,
    String.ofList_toList]

/-!
## Spaces
-/

def Spaces (cs : List Char) : Prop := forall c, c ∈ cs -> isSpace c = true

theorem skipSpace_append {spaces : List Char} (h : Spaces spaces)
    (cs : List Char) : skipSpace (spaces ++ cs) = skipSpace cs :=
  List.dropWhile_append_of_pos h

theorem skipSpace_cons {c : Char} (h : isSpace c = false) (cs : List Char) :
    skipSpace (c :: cs) = c :: cs := by
  simp [skipSpace, h]

theorem readValue_spaces {spaces : List Char} (h : Spaces spaces)
    (depth : Nat) (cs : List Char) :
    readValue depth (spaces ++ cs) = readValue depth cs := by
  cases depth with
  | zero => rfl
  | succ depth => simp only [readValue, skipSpace_append h]

theorem readMembers_spaces {spaces : List Char} (h : Spaces spaces)
    (depth : Nat) (cs : List Char) :
    readMembers depth (spaces ++ cs) = readMembers depth cs := by
  cases depth with
  | zero => rfl
  | succ depth => simp only [readMembers, skipSpace_append h]

theorem endsNumber_spaces {spaces : List Char} (h : Spaces spaces)
    {cs : List Char} (hcs : EndsNumber cs) : EndsNumber (spaces ++ cs) := by
  cases spaces with
  | nil => exact hcs
  | cons c spaces =>
      have hc := h c List.mem_cons_self
      apply endsNumber_cons
      refine ⟨?_, ?_, ?_, ?_⟩
      · simp only [isSpace, Bool.or_eq_true, decide_eq_true_eq] at hc
        rcases hc with ((rfl | rfl) | rfl) | rfl <;> rfl
      all_goals
        rintro rfl
        cases hc

theorem readItems_spaces {spaces : List Char} (h : Spaces spaces)
    (depth : Nat) (cs : List Char) :
    readItems depth (spaces ++ cs) = readItems depth cs := by
  cases depth with
  | zero => rfl
  | succ depth => simp only [readItems, readValue_spaces h]

/-!
## Parts between brackets

`ReadsAs` says that a text is read as a value wherever it ends; a depth of its
length is enough.  The parts of an array or an object are read one by one,
with the spaces in front of them.
-/

def ReadsAs (text : List Char) (value : Json) : Prop :=
  forall depth rest, text.length ≤ depth -> EndsNumber rest ->
    readValue depth (text ++ rest) = some (value, rest)

section Parts

variable {depth : Nat} {cs later rest trail : List Char}
variable {key : String} {value : Json} {items : List Json}

theorem readItems_last (htrail : Spaces trail)
    (hvalue : readValue depth cs = some (value, trail ++ ']' :: rest)) :
    readItems (depth + 1) cs = some ([value], rest) := by
  have hclosing := skipSpace_cons (c := ']') (by decide) rest
  unfold readItems
  rw [hvalue]
  simp only [Option.bind_eq_bind, Option.bind_some, skipSpace_append htrail,
    hclosing]

theorem readItems_more
    (hvalue : readValue depth cs = some (value, ',' :: later))
    (hlater : readItems depth later = some (items, rest)) :
    readItems (depth + 1) cs = some (value :: items, rest) := by
  unfold readItems
  rw [hvalue]
  show (readItems depth later).bind _ = _
  rw [hlater]
  rfl

theorem readMembers_last_of_spaces {value : List Char} {j : Json}
    (htrail : Spaces trail) (hkey : readString cs = some (key, ':' :: value))
    (hvalue : readValue depth value = some (j, trail ++ '\x7d' :: rest)) :
    readMembers (depth + 1) ('"' :: cs) = some ([(key, j)], rest) := by
  have hclosing := skipSpace_cons (c := '\x7d') (by decide) rest
  show (readString cs).bind _ = _
  rw [hkey]
  show (readValue depth value).bind _ = _
  rw [hvalue]
  simp only [Option.bind_some, skipSpace_append htrail, hclosing]

end Parts

theorem length_intercalate_cons {sep first next : List Char}
    {parts : List (List Char)} :
    (sep.intercalate (first :: next :: parts)).length =
      first.length + sep.length + (sep.intercalate (next :: parts)).length := by
  rw [List.intercalate_cons_cons, List.length_append, List.length_append]

variable {lead trail : List Char}

theorem readItems_joined (text : Json -> List Char) (hlead : Spaces lead)
    (htrail : Spaces trail) {items : List Json} (hne : items ≠ [])
    (hread : forall item, item ∈ items -> ReadsAs (text item) item)
    {depth : Nat} (rest : List Char)
    (hdepth : ((',' :: lead).intercalate (items.map text)).length < depth) :
    readItems depth ((',' :: lead).intercalate (items.map text) ++
      (trail ++ ']' :: rest)) = some (items, rest) := by
  induction items generalizing depth with
  | nil => exact absurd rfl hne
  | cons item items ih =>
      have hitem := hread item List.mem_cons_self
      cases depth with
      | zero => cases hdepth
      | succ depth =>
          cases items with
          | nil =>
              have hend : EndsNumber (trail ++ ']' :: rest) :=
                endsNumber_spaces htrail (endsNumber_cons _ (by decide))
              rw [List.map_cons, List.map_nil, List.intercalate_singleton]
                at hdepth ⊢
              exact readItems_last htrail
                (hitem depth _ (Nat.le_of_lt_succ hdepth) hend)
          | cons next items =>
              rw [List.map_cons, List.map_cons, length_intercalate_cons,
                List.length_cons] at hdepth
              rw [List.map_cons, List.map_cons, List.intercalate_cons_cons,
                List.append_assoc, List.append_assoc]
              apply readItems_more
              · exact hitem depth _ (by omega)
                  (endsNumber_cons _ (by decide))
              · show readItems depth (lead ++ _) = _
                rw [readItems_spaces hlead]
                exact ih (by simp)
                  (fun other hmem => hread other (List.mem_cons_of_mem _ hmem))
                  (by rw [List.map_cons]; omega)

/-- The text of a member, with the spaces behind its colon. -/
def memberText (text : Json -> List Char) (spaces : List Char)
    (member : String × Json) : List Char :=
  quote member.1 ++ (':' :: spaces ++ text member.2)

theorem memberText_append (text : Json -> List Char) (spaces : List Char)
    (member : String × Json) (rest : List Char) :
    memberText text spaces member ++ rest =
      '"' :: (member.1.toList.flatMap quoteChar ++
        '"' :: ':' :: (spaces ++ (text member.2 ++ rest))) := by
  simp [memberText, quote]

theorem readMembers_joined (text : Json -> List Char) {spaces : List Char}
    (hspaces : Spaces spaces) (hlead : Spaces lead) (htrail : Spaces trail)
    {members : List (String × Json)} (hne : members ≠ [])
    (hread : forall member, member ∈ members ->
      ReadsAs (text member.2) member.2)
    {depth : Nat} (rest : List Char)
    (hdepth : ((',' :: lead).intercalate
      (members.map (memberText text spaces))).length < depth) :
    readMembers depth ((',' :: lead).intercalate
        (members.map (memberText text spaces)) ++ (trail ++ '\x7d' :: rest)) =
      some (members, rest) := by
  induction members generalizing depth with
  | nil => exact absurd rfl hne
  | cons member members ih =>
      have hmember := hread member List.mem_cons_self
      have hlength : (text member.2).length <
          (memberText text spaces member).length := by
        simp only [memberText, quote, List.length_append, List.length_cons]
        omega
      cases depth with
      | zero => cases hdepth
      | succ depth =>
          cases members with
          | nil =>
              have hend : EndsNumber (trail ++ '\x7d' :: rest) :=
                endsNumber_spaces htrail (endsNumber_cons _ (by decide))
              rw [List.map_cons, List.map_nil, List.intercalate_singleton]
                at hdepth ⊢
              have hvalue := hmember depth _ (by omega) hend
              rw [memberText_append]
              apply readMembers_last_of_spaces htrail (readString_quoted _ _)
              rw [readValue_spaces hspaces]
              exact hvalue
          | cons next members =>
              rw [List.map_cons, List.map_cons, length_intercalate_cons,
                List.length_cons] at hdepth
              rw [List.map_cons, List.map_cons, List.intercalate_cons_cons,
                List.append_assoc, List.append_assoc, memberText_append]
              apply readMembers_more (readString_quoted _ _)
              · rw [readValue_spaces hspaces]
                exact hmember depth _ (by omega)
                  (endsNumber_cons _ (by decide))
              · show readMembers depth (lead ++ _) = _
                rw [readMembers_spaces hlead]
                exact ih (by simp)
                  (fun other hmem => hread other (List.mem_cons_of_mem _ hmem))
                  (by rw [List.map_cons]; omega)

/-!
## Values
-/

section Values

variable {number : Int -> Int -> List Char} {gap indent : List Char}

/-- What stands between the brackets and the parts. -/
def leading (gap indent : List Char) : List Char :=
  if gap.isEmpty then [] else '\n' :: (indent ++ gap)

def trailing (gap indent : List Char) : List Char :=
  if gap.isEmpty then [] else '\n' :: indent

theorem bracketed_eq (opening closing : Char) {parts : List (List Char)}
    (hne : parts ≠ []) :
    bracketed opening closing gap indent parts =
      opening :: (leading gap indent ++
        ((',' :: leading gap indent).intercalate parts ++
          (trailing gap indent ++ [closing]))) := by
  have hparts : parts.isEmpty = false := by simp [hne]
  unfold bracketed leading trailing
  rw [hparts]
  cases hgap : gap.isEmpty with
  | true => simp
  | false => simp

theorem spaces_append {first second : List Char} (hfirst : Spaces first)
    (hsecond : Spaces second) : Spaces (first ++ second) := by
  intro c hc
  rcases List.mem_append.mp hc with hc | hc
  · exact hfirst c hc
  · exact hsecond c hc

theorem spaces_cons {c : Char} {cs : List Char} (hc : isSpace c = true)
    (hcs : Spaces cs) : Spaces (c :: cs) := by
  intro d hd
  rcases List.mem_cons.mp hd with rfl | hd
  · exact hc
  · exact hcs d hd

theorem spaces_nil : Spaces [] := by
  intro c hc
  cases hc

theorem spaces_leading (hgap : Spaces gap) (hindent : Spaces indent) :
    Spaces (leading gap indent) := by
  unfold leading
  split
  · exact spaces_nil
  · exact spaces_cons (by decide) (spaces_append hindent hgap)

theorem spaces_trailing (gap : List Char) (hindent : Spaces indent) :
    Spaces (trailing gap indent) := by
  unfold trailing
  split
  · exact spaces_nil
  · exact spaces_cons (by decide) hindent

theorem colon_eq (gap : List Char) :
    exists spaces, colon gap = ':' :: spaces ∧ Spaces spaces := by
  unfold colon
  split
  · exact ⟨[], rfl, spaces_nil⟩
  · exact ⟨[' '], rfl, spaces_cons (by decide) spaces_nil⟩

theorem stringifyItems_eq_map (items : List Json) :
    stringifyItems number gap indent items =
      items.map (stringifyAt number gap indent) := by
  induction items with
  | nil => rfl
  | cons item rest ih => rw [stringifyItems, ih, List.map_cons]

theorem stringifyMembers_eq_map {spaces : List Char}
    (hcolon : colon gap = ':' :: spaces) (members : List (String × Json)) :
    stringifyMembers number gap indent members =
      members.map (memberText (stringifyAt number gap indent) spaces) := by
  induction members with
  | nil => rfl
  | cons member rest ih =>
      rw [stringifyMembers, ih, List.map_cons, hcolon, memberText,
        List.append_assoc]

/-- The first character of a text shows which value it is. -/
theorem readNumber_of_head {c : Char} {cs : List Char} (depth : Nat)
    (h : c = '-' ∨ c.isDigit = true) :
    readValue (depth + 1) (c :: cs) = readNumber (c :: cs) := by
  have hne : forall d : Char, d ≠ '-' -> d.isDigit = false -> c ≠ d := by
    rintro d hminus hdigit rfl
    rcases h with hc | hc
    · exact hminus hc
    · rw [hc] at hdigit
      cases hdigit
  have hspace : isSpace c = false := by
    simp [isSpace, hne ' ' (by decide) (by decide),
      hne '\t' (by decide) (by decide), hne '\n' (by decide) (by decide),
      hne '\r' (by decide) (by decide)]
  have hclash : forall {d : Char} {rest : List Char}, d ≠ '-' ->
      d.isDigit = false -> c :: cs ≠ d :: rest := by
    intro d rest hminus hdigit heq
    exact hne d hminus hdigit (List.cons.inj heq).left
  unfold readValue
  rw [skipSpace_cons hspace]
  split
  · rename_i heq
    exact absurd heq (hclash (by decide) (by decide))
  · rename_i heq
    exact absurd heq (hclash (by decide) (by decide))
  · rename_i heq
    exact absurd heq (hclash (by decide) (by decide))
  · rename_i heq
    exact absurd heq (hclash (by decide) (by decide))
  · rename_i heq
    exact absurd heq (hclash (by decide) (by decide))
  · rename_i heq
    exact absurd heq (hclash (by decide) (by decide))
  · rfl

theorem readsAs_of_readsBack {text : List Char} {value : Json}
    (h : ReadsBack text value) : ReadsAs text value := by
  intro depth rest hdepth hrest
  rcases head_of_readsBack h with ⟨c, cs, rfl, hhead⟩
  cases depth with
  | zero => cases hdepth
  | succ depth =>
      rw [← h rest hrest]
      exact readNumber_of_head depth hhead

theorem readsAs_quote (text : String) :
    ReadsAs (quote text) (Json.string text) := by
  intro depth rest hdepth _
  cases depth with
  | zero => cases hdepth
  | succ depth =>
      have htext : quote text ++ rest =
          '"' :: (text.toList.flatMap quoteChar ++ '"' :: rest) := by
        simp [quote]
      rw [htext]
      exact readValue_string (readString_quoted text rest) depth

/-- A text starts with a character that neither is a space nor closes anything. -/
def Starts (text : List Char) : Prop :=
  exists c cs, text = c :: cs ∧ isSpace c = false ∧ c ≠ ']' ∧ c ≠ '\x7d'

theorem starts_of_readsBack {text : List Char} {value : Json}
    (h : ReadsBack text value) : Starts text := by
  rcases head_of_readsBack h with ⟨c, cs, rfl, hhead⟩
  refine ⟨c, cs, rfl, ?_, ?_, ?_⟩
  · cases hspace : isSpace c with
    | false => rfl
    | true =>
        simp only [isSpace, Bool.or_eq_true, decide_eq_true_eq] at hspace
        rcases hspace with ((rfl | rfl) | rfl) | rfl <;> simp_all
  all_goals
    rintro rfl
    simp_all

theorem starts_bracketed (opening closing : Char) (gap indent : List Char)
    (parts : List (List Char))
    (h : isSpace opening = false ∧ opening ≠ ']' ∧ opening ≠ '\x7d') :
    Starts (bracketed opening closing gap indent parts) := by
  unfold bracketed
  split
  · exact ⟨opening, _, rfl, h⟩
  · split
    · exact ⟨opening, _, rfl, h⟩
    · exact ⟨opening, _, rfl, h⟩

theorem starts_stringifyAt {value : Json} (h : Readable number value) :
    Starts (stringifyAt number gap indent value) := by
  cases value with
  | null => exact ⟨'n', _, rfl, by decide⟩
  | bool value =>
      cases value with
      | false => exact ⟨'f', _, rfl, by decide⟩
      | true => exact ⟨'t', _, rfl, by decide⟩
  | int value => exact starts_of_readsBack h
  | double mantissa exponent => exact starts_of_readsBack h
  | string text => exact ⟨'"', _, rfl, by decide⟩
  | array items => exact starts_bracketed '[' ']' _ _ _ (by decide)
  | object members => exact starts_bracketed '\x7b' '\x7d' _ _ _ (by decide)

theorem readValue_array {depth : Nat} {spaces cs rest : List Char}
    {items : List Json} (hspaces : Spaces spaces) (hstarts : Starts cs)
    (hitems : readItems depth cs = some (items, rest)) :
    readValue (depth + 1) ('[' :: (spaces ++ cs)) =
      some (Json.array items, rest) := by
  rcases hstarts with ⟨c, cs, rfl, hc, hclosing, _⟩
  have hskip := skipSpace_cons hc cs
  have hopening := skipSpace_cons (c := '[') (by decide) (spaces ++ c :: cs)
  unfold readValue
  simp only [hopening, skipSpace_append hspaces, hskip]
  split
  · rename_i heq
    exact absurd (List.cons.inj heq).left hclosing
  · rw [hitems]
    rfl

theorem readValue_members {depth : Nat} {spaces cs rest : List Char}
    {members : List (String × Json)} (hspaces : Spaces spaces)
    (hstarts : Starts cs)
    (hmembers : readMembers depth cs = some (members, rest)) :
    readValue (depth + 1) ('\x7b' :: (spaces ++ cs)) =
      some (Json.object members, rest) := by
  rcases hstarts with ⟨c, cs, rfl, hc, _, hclosing⟩
  have hskip := skipSpace_cons hc cs
  have hopening := skipSpace_cons (c := '\x7b') (by decide)
    (spaces ++ c :: cs)
  unfold readValue
  simp only [hopening, skipSpace_append hspaces, hskip]
  split
  · rename_i heq
    exact absurd (List.cons.inj heq).left hclosing
  · rw [hmembers]
    rfl

theorem Starts.append {text : List Char} (h : Starts text)
    (rest : List Char) : Starts (text ++ rest) := by
  rcases h with ⟨c, cs, rfl, hc⟩
  exact ⟨c, cs ++ rest, rfl, hc⟩

theorem starts_intercalate {first : List Char} (h : Starts first)
    (sep : List Char) (parts : List (List Char)) :
    Starts (sep.intercalate (first :: parts)) := by
  cases parts with
  | nil =>
      rw [List.intercalate_singleton]
      exact h
  | cons next parts =>
      rw [List.intercalate_cons_cons, List.append_assoc]
      exact h.append _

/-- The brackets of an array around texts that are read as its items. -/
theorem readsAs_array (hgap : Spaces gap) (hindent : Spaces indent)
    (text : Json -> List Char) (items : List Json)
    (hread : forall item, item ∈ items ->
      ReadsAs (text item) item ∧ Starts (text item)) :
    ReadsAs (bracketed '[' ']' gap indent (items.map text))
      (Json.array items) := by
  intro depth rest hdepth _
  cases depth with
  | zero =>
      rcases starts_bracketed '[' ']' gap indent (items.map text)
        (by decide) with ⟨c, cs, heq, _⟩
      rw [heq] at hdepth
      cases hdepth
  | succ depth =>
      cases items with
      | nil => rfl
      | cons item items =>
          have hparts : (item :: items).map text ≠ [] := by simp
          rw [bracketed_eq '[' ']' hparts] at hdepth ⊢
          simp only [List.length_cons, List.length_append] at hdepth
          have hitems : readItems depth _ = _ :=
            readItems_joined text (spaces_leading hgap hindent)
              (spaces_trailing gap hindent) (List.cons_ne_nil item items)
              (fun other hmem => (hread other hmem).left) rest (by omega)
          have hstarts := (starts_intercalate
            (hread item List.mem_cons_self).right (',' :: leading gap indent)
            (items.map text)).append (trailing gap indent ++ ']' :: rest)
          simp only [List.cons_append, List.append_assoc, List.nil_append]
          exact readValue_array (spaces_leading hgap hindent) hstarts hitems

/-- The braces of an object around texts that are read as its members. -/
theorem readsAs_object (hgap : Spaces gap) (hindent : Spaces indent)
    {spaces : List Char} (hspaces : Spaces spaces)
    (text : Json -> List Char) (members : List (String × Json))
    (hread : forall member, member ∈ members ->
      ReadsAs (text member.2) member.2) :
    ReadsAs (bracketed '\x7b' '\x7d' gap indent
      (members.map (memberText text spaces))) (Json.object members) := by
  intro depth rest hdepth _
  cases depth with
  | zero =>
      rcases starts_bracketed '\x7b' '\x7d' gap indent
        (members.map (memberText text spaces)) (by decide) with ⟨c, cs, heq, _⟩
      rw [heq] at hdepth
      cases hdepth
  | succ depth =>
      cases members with
      | nil => rfl
      | cons member members =>
          have hparts : (member :: members).map (memberText text spaces) ≠ [] :=
            by simp
          rw [bracketed_eq '\x7b' '\x7d' hparts] at hdepth ⊢
          simp only [List.length_cons, List.length_append] at hdepth
          have hmembers : readMembers depth _ = _ :=
            readMembers_joined text hspaces (spaces_leading hgap hindent)
              (spaces_trailing gap hindent)
              (List.cons_ne_nil member members) hread rest (by omega)
          have hquote : Starts (memberText text spaces member) :=
            ⟨'"', _, rfl, by decide⟩
          have hstarts := (starts_intercalate hquote
            (',' :: leading gap indent)
            (members.map (memberText text spaces))).append
              (trailing gap indent ++ '\x7d' :: rest)
          simp only [List.cons_append, List.append_assoc, List.nil_append]
          exact readValue_members (spaces_leading hgap hindent) hstarts
            hmembers

theorem readsAs_literal {text : List Char} {value : Json}
    (htext : text ≠ []) (h : forall depth rest,
      readValue (depth + 1) (text ++ rest) = some (value, rest)) :
    ReadsAs text value := by
  intro depth rest hdepth _
  cases depth with
  | zero => exact absurd (List.length_eq_zero_iff.mp (Nat.le_zero.mp hdepth)) htext
  | succ depth => exact h depth rest

mutual

/-- The text of a readable value is read as the value. -/
theorem readsAs_stringifyAt (hgap : Spaces gap) :
    forall (value : Json) {indent : List Char}, Spaces indent ->
      Readable number value ->
        ReadsAs (stringifyAt number gap indent value) value
  | Json.null, _, _, _ =>
      readsAs_literal (by simp [stringifyAt]) fun _ _ => rfl
  | Json.bool true, _, _, _ =>
      readsAs_literal (by simp [stringifyAt]) fun _ _ => rfl
  | Json.bool false, _, _, _ =>
      readsAs_literal (by simp [stringifyAt]) fun _ _ => rfl
  | Json.int _, _, _, h => readsAs_of_readsBack h
  | Json.double _ _, _, _, h => readsAs_of_readsBack h
  | Json.string text, _, _, _ => readsAs_quote text
  | Json.array items, indent, hindent, h => by
      have hread := readsAs_items hgap items
        (spaces_append hindent hgap) h
      rw [stringifyAt, stringifyItems_eq_map]
      exact readsAs_array hgap hindent _ items hread
  | Json.object members, indent, hindent, h => by
      rcases colon_eq gap with ⟨spaces, hcolon, hspaces⟩
      have hread := readsAs_members hgap members
        (spaces_append hindent hgap) h
      rw [stringifyAt, stringifyMembers_eq_map hcolon]
      exact readsAs_object hgap hindent hspaces _ members hread

theorem readsAs_items (hgap : Spaces gap) :
    forall (items : List Json) {indent : List Char}, Spaces indent ->
      ReadableItems number items -> forall item, item ∈ items ->
        ReadsAs (stringifyAt number gap indent item) item ∧
          Starts (stringifyAt number gap indent item)
  | [], _, _, _ => by
      intro item hmem
      cases hmem
  | item :: items, indent, hindent, h => by
      intro other hmem
      rcases List.mem_cons.mp hmem with heq | hmem
      · rw [heq]
        exact ⟨readsAs_stringifyAt hgap item hindent h.left,
          starts_stringifyAt h.left⟩
      · exact readsAs_items hgap items hindent h.right other hmem

theorem readsAs_members (hgap : Spaces gap) :
    forall (members : List (String × Json)) {indent : List Char},
      Spaces indent -> ReadableMembers number members ->
        forall member, member ∈ members ->
          ReadsAs (stringifyAt number gap indent member.2) member.2
  | [], _, _, _ => by
      intro member hmem
      cases hmem
  | (name, value) :: members, indent, hindent, h => by
      intro other hmem
      rcases List.mem_cons.mp hmem with heq | hmem
      · rw [heq]
        exact readsAs_stringifyAt hgap value hindent h.left
      · exact readsAs_members hgap members hindent h.right other hmem

end

/-- A text is decoded to the value it was written for, whatever spaces follow. -/
theorem decode_stringify (hgap : Spaces gap) {value : Json}
    (h : Readable number value) {behind : List Char} (hbehind : Spaces behind) :
    decode (String.ofList (stringify number gap value ++ behind)) =
      some value := by
  have hread := readsAs_stringifyAt hgap value spaces_nil h
    ((stringify number gap value ++ behind).length + 1) behind
    (by rw [List.length_append]; exact Nat.le_succ_of_le (Nat.le_add_right _ _))
    (by
      have hend := endsNumber_spaces hbehind endsNumber_nil
      rwa [List.append_nil] at hend)
  have hrest : skipSpace behind = [] := by
    have hskip := skipSpace_append hbehind []
    rwa [List.append_nil] at hskip
  unfold decode
  rw [String.length_ofList, String.toList_ofList]
  unfold stringify at hread ⊢
  rw [hread]
  simp only [hrest]
  rfl

end Values

end RoundTrip
end Foundation
end XdsService
