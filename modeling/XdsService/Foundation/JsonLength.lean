import XdsService.Foundation.JsonText

/-!
# The length of a JSON text

A character that has to be escaped takes two characters of the text at least,
and a name takes its quotes.  No text is shorter than this makes the value
that it decodes to.
-/

namespace XdsService
namespace Foundation
namespace JsonText

/-- What a character of a string takes at least. -/
def charLength (c : Char) : Nat :=
  if c = '"' ∨ c = '\\' ∨ c.toNat < 32 then 2 else 1

def charsLength : List Char -> Nat
  | [] => 0
  | c :: cs => charLength c + charsLength cs

def quotedLength (text : String) : Nat := charsLength text.toList + 2

mutual

/-- A bound for the texts of a value, which counts its strings and brackets. -/
def shortest : Json -> Nat
  | Json.string text => quotedLength text
  | Json.array items => shortestItems items + (if items.isEmpty then 2 else 1)
  | Json.object members =>
      shortestMembers members + (if members.isEmpty then 2 else 1)
  | _ => 0

def shortestItems : List Json -> Nat
  | [] => 0
  | item :: rest => shortest item + 1 + shortestItems rest

def shortestMembers : List (String × Json) -> Nat
  | [] => 0
  | (key, value) :: rest =>
      quotedLength key + shortest value + 2 + shortestMembers rest

end

theorem one_le_charLength (c : Char) : 1 ≤ charLength c := by
  unfold charLength
  split <;> omega

theorem charLength_le_two (c : Char) : charLength c ≤ 2 := by
  unfold charLength
  split <;> omega

/-!
## Strings
-/

def unitLength (unit : Nat) : Nat := charLength (unitChar unit)

def unitsLength : List Nat -> Nat
  | [] => 0
  | unit :: units => unitLength unit + unitsLength units

theorem charsLength_joinUnits (units : List Nat) :
    charsLength (joinUnits units) ≤ unitsLength units := by
  fun_induction joinUnits units with
  | case1 => exact Nat.le_refl 0
  | case2 unit => exact Nat.le_refl _
  | case3 high low rest _ ih =>
      have hpair := charLength_le_two (pairChar high low)
      have hhigh := one_le_charLength (unitChar high)
      have hlow := one_le_charLength (unitChar low)
      simp only [charsLength, unitsLength, unitLength] at ih ⊢
      omega
  | case4 high low rest _ ih =>
      simp only [charsLength, unitsLength, unitLength] at ih ⊢
      omega

/-- No character is half of one. -/
theorem not_surrogate (c : Char) :
    (isHighSurrogate c.toNat || isLowSurrogate c.toNat) = false := by
  have hscalar : c.toNat < 0xD800 ∨ 0xDFFF < c.toNat ∧ c.toNat < 0x110000 :=
    c.valid
  unfold isHighSurrogate isLowSurrogate
  rw [Bool.or_eq_false_iff, decide_eq_false_iff_not, decide_eq_false_iff_not]
  omega

theorem unitChar_toNat (c : Char) : unitChar c.toNat = c := by
  unfold unitChar
  rw [not_surrogate]
  exact Char.ofNat_toNat c

theorem unitLength_le_two (unit : Nat) : unitLength unit ≤ 2 :=
  charLength_le_two _

theorem cons_unit_eq_some {read : Option (List Nat × List Char)}
    {unit : Nat} {units : List Nat} {rest : List Char}
    (h : (read.bind fun r => some (unit :: r.1, r.2)) = some (units, rest)) :
    exists later, read = some (later, rest) ∧ units = unit :: later := by
  rcases Option.bind_eq_some_iff.mp h with ⟨⟨later, rest'⟩, hread, heq⟩
  cases heq
  exact ⟨later, hread, rfl⟩

theorem unitsLength_of_readUnits {cs rest : List Char} {units : List Nat}
    (h : readUnits cs = some (units, rest)) :
    unitsLength units + 1 + rest.length ≤ cs.length := by
  fun_induction readUnits cs generalizing units with
  | case1 => cases h
  | case2 rest' =>
      cases h
      exact Nat.le_of_eq (Nat.add_comm 1 _)
  | case3 a b c d rest' ih =>
      rcases Option.bind_eq_some_iff.mp h with ⟨unit, _, h⟩
      rcases cons_unit_eq_some h with ⟨later, hread, rfl⟩
      have hrest := ih hread
      have hunit := unitLength_le_two unit
      simp only [unitsLength, List.length_cons]
      omega
  | case4 c rest' _ ih =>
      rcases Option.bind_eq_some_iff.mp h with ⟨unit, _, h⟩
      rcases cons_unit_eq_some h with ⟨later, hread, rfl⟩
      have hrest := ih hread
      have hunit := unitLength_le_two unit
      simp only [unitsLength, List.length_cons]
      omega
  | case5 c rest' _ _ _ hbad => cases h
  | case6 c rest' hquote _ _ hgood ih =>
      rcases cons_unit_eq_some h with ⟨later, hread, rfl⟩
      have hrest := ih hread
      have hunit : unitLength c.toNat = 1 := by
        unfold unitLength charLength
        rw [unitChar_toNat, if_neg]
        intro hspecial
        rcases hspecial with hc | hc | hc
        · exact hquote hc
        · exact hgood (Or.inr hc)
        · exact hgood (Or.inl hc)
      simp only [unitsLength, List.length_cons]
      omega

/-- A string that is read takes no more than what was read and a quote. -/
theorem quotedLength_of_readString {cs rest : List Char} {text : String}
    (h : readString cs = some (text, rest)) :
    quotedLength text + rest.length ≤ cs.length + 1 := by
  rcases Option.map_eq_some_iff.mp h with ⟨⟨units, rest'⟩, hread, heq⟩
  cases heq
  have hunits := unitsLength_of_readUnits hread
  have hjoin := charsLength_joinUnits units
  show charsLength (String.ofList (joinUnits units)).toList + 2 +
    rest'.length ≤ cs.length + 1
  rw [String.toList_ofList]
  omega

/-!
## Numbers
-/

theorem length_skipSpace (cs : List Char) :
    (skipSpace cs).length ≤ cs.length :=
  (List.dropWhile_suffix _).length_le

theorem length_of_readDigits {cs rest digits : List Char}
    (h : readDigits cs = some (digits, rest)) : rest.length ≤ cs.length := by
  unfold readDigits at h
  split at h
  · cases h
  · cases h
    exact (List.dropWhile_suffix _).length_le

theorem length_of_readFraction {cs rest digits : List Char}
    (h : readFraction cs = some (digits, rest)) : rest.length ≤ cs.length := by
  unfold readFraction at h
  split at h
  · exact Nat.le_succ_of_le (length_of_readDigits h)
  · cases h
    exact Nat.le_refl _

theorem length_readSign (cs : List Char) :
    (readSign cs).2.length ≤ cs.length := by
  unfold readSign
  split
  · exact Nat.le_succ _
  · exact Nat.le_succ _
  · exact Nat.le_refl _

theorem length_of_readExponent {cs rest : List Char} {exponent : Int}
    (h : readExponent cs = some (exponent, rest)) :
    rest.length ≤ cs.length := by
  rcases Option.map_eq_some_iff.mp h with ⟨⟨digits, rest'⟩, hread, heq⟩
  cases heq
  exact Nat.le_trans (length_of_readDigits hread) (length_readSign cs)

theorem length_of_readScale {cs rest : List Char} {scale : Option Int}
    (h : readScale cs = some (scale, rest)) : rest.length ≤ cs.length := by
  have hexponent : forall {cs' : List Char},
      (readExponent cs').map (fun exponent =>
        (some exponent.1, exponent.2)) = some (scale, rest) ->
      rest.length ≤ cs'.length + 1 := by
    intro cs' h
    rcases Option.map_eq_some_iff.mp h with ⟨⟨exponent, rest'⟩, hread, heq⟩
    cases heq
    exact Nat.le_succ_of_le (length_of_readExponent hread)
  unfold readScale at h
  split at h
  · exact hexponent h
  · exact hexponent h
  · cases h
    exact Nat.le_refl _

theorem shortest_of_readUnsigned {sign : Int} {cs rest : List Char}
    {value : Json} (h : readUnsigned sign cs = some (value, rest)) :
    shortest value + rest.length ≤ cs.length := by
  rcases Option.bind_eq_some_iff.mp h with ⟨whole, hwhole, h⟩
  split at h
  · cases h
  · rcases Option.bind_eq_some_iff.mp h with ⟨fraction, hfraction, h⟩
    rcases Option.bind_eq_some_iff.mp h with ⟨scale, hscale, h⟩
    have hlength := Nat.le_trans (length_of_readScale hscale)
      (Nat.le_trans (length_of_readFraction hfraction)
        (length_of_readDigits hwhole))
    split at h
    · cases h
      simpa [shortest] using hlength
    · cases h
      simpa [shortest] using hlength

theorem shortest_of_readNumber {cs rest : List Char} {value : Json}
    (h : readNumber cs = some (value, rest)) :
    shortest value + rest.length ≤ cs.length := by
  unfold readNumber at h
  split at h
  · exact Nat.le_succ_of_le (shortest_of_readUnsigned h)
  · exact shortest_of_readUnsigned h

/-!
## Values
-/

/-- At this depth nothing is read from less than it takes. -/
structure ReadsEnough (depth : Nat) : Prop where
  value : forall {cs rest value}, readValue depth cs = some (value, rest) ->
    shortest value + rest.length ≤ cs.length
  members : forall {cs rest members},
    readMembers depth cs = some (members, rest) ->
      members ≠ [] ∧ shortestMembers members + rest.length ≤ cs.length
  items : forall {cs rest items}, readItems depth cs = some (items, rest) ->
    items ≠ [] ∧ shortestItems items + rest.length ≤ cs.length

theorem shortest_object {members : List (String × Json)}
    (h : members ≠ []) :
    shortest (Json.object members) = shortestMembers members + 1 := by
  cases members with
  | nil => exact absurd rfl h
  | cons member rest => rfl

theorem shortest_array {items : List Json} (h : items ≠ []) :
    shortest (Json.array items) = shortestItems items + 1 := by
  cases items with
  | nil => exact absurd rfl h
  | cons item rest => rfl

theorem length_of_skipSpace_eq_cons {cs rest : List Char} {c : Char}
    (h : skipSpace cs = c :: rest) : rest.length + 1 ≤ cs.length := by
  have hle := length_skipSpace cs
  rw [h] at hle
  exact hle

theorem enough_of_behind {cs rest behind : List Char} {c : Char} {n : Nat}
    (hskip : skipSpace cs = c :: behind)
    (h : n + rest.length ≤ behind.length) :
    n + 1 + rest.length ≤ cs.length := by
  have hlength := length_of_skipSpace_eq_cons hskip
  omega

theorem enough_of_literal {cs rest : List Char} {value : Json}
    (hvalue : shortest value = 0) (letters : List Char)
    (hskip : skipSpace cs = letters ++ rest) :
    shortest value + rest.length ≤ cs.length := by
  have hlength := length_skipSpace cs
  rw [hskip, List.length_append] at hlength
  rw [hvalue, Nat.zero_add]
  exact Nat.le_of_add_left_le hlength

theorem readValue_enough {depth : Nat} (ih : ReadsEnough depth)
    {cs rest : List Char} {value : Json}
    (h : readValue (depth + 1) cs = some (value, rest)) :
    shortest value + rest.length ≤ cs.length := by
  unfold readValue at h
  split at h
  · rename_i rest' hskip
    rcases Option.map_eq_some_iff.mp h with ⟨⟨text, rest''⟩, hread, heq⟩
    cases heq
    have hquoted := quotedLength_of_readString hread
    have hlength := length_of_skipSpace_eq_cons hskip
    exact Nat.le_trans hquoted hlength
  · rename_i rest' hskip
    split at h
    · rename_i rest'' hclose
      cases h
      have hlength := length_of_skipSpace_eq_cons hclose
      rw [Nat.add_comm] at hlength
      exact @enough_of_behind _ _ _ _ 1 hskip hlength
    · rcases Option.map_eq_some_iff.mp h with ⟨⟨members, _⟩, hread, heq⟩
      cases heq
      rcases ih.members hread with ⟨hne, hmembers⟩
      rw [shortest_object hne]
      exact enough_of_behind hskip
        (Nat.le_trans hmembers (length_skipSpace rest'))
  · rename_i rest' hskip
    split at h
    · rename_i rest'' hclose
      cases h
      have hlength := length_of_skipSpace_eq_cons hclose
      rw [Nat.add_comm] at hlength
      exact @enough_of_behind _ _ _ _ 1 hskip hlength
    · rcases Option.map_eq_some_iff.mp h with ⟨⟨items, _⟩, hread, heq⟩
      cases heq
      rcases ih.items hread with ⟨hne, hitems⟩
      rw [shortest_array hne]
      exact enough_of_behind hskip
        (Nat.le_trans hitems (length_skipSpace rest'))
  · rename_i rest' hskip
    cases h
    exact enough_of_literal rfl ['t', 'r', 'u', 'e'] hskip
  · rename_i rest' hskip
    cases h
    exact enough_of_literal rfl ['f', 'a', 'l', 's', 'e'] hskip
  · rename_i rest' hskip
    cases h
    exact enough_of_literal rfl ['n', 'u', 'l', 'l'] hskip
  · exact Nat.le_trans (shortest_of_readNumber h) (length_skipSpace cs)

theorem readMembers_enough {depth : Nat} (ih : ReadsEnough depth)
    {cs rest : List Char} {members : List (String × Json)}
    (h : readMembers (depth + 1) cs = some (members, rest)) :
    members ≠ [] ∧ shortestMembers members + rest.length ≤ cs.length := by
  unfold readMembers at h
  split at h
  · rename_i rest1 hquote
    have hlength1 := length_of_skipSpace_eq_cons hquote
    rcases Option.bind_eq_some_iff.mp h with ⟨⟨key, rest2⟩, hkey, h⟩
    have hkeyLength := quotedLength_of_readString hkey
    split at h
    · rename_i rest3 hcolon
      have hlength3 := length_of_skipSpace_eq_cons hcolon
      rcases Option.bind_eq_some_iff.mp h with ⟨⟨value, rest4⟩, hvalue, h⟩
      have hvalueLength := ih.value hvalue
      split at h
      · rename_i rest5 hcomma
        have hlength5 := length_of_skipSpace_eq_cons hcomma
        rcases Option.bind_eq_some_iff.mp h with ⟨⟨later, rest6⟩, hlater, h⟩
        cases h
        have hlaterLength := (ih.members hlater).2
        refine ⟨List.cons_ne_nil _ _, ?_⟩
        simp only [shortestMembers] at *
        omega
      · rename_i rest5 hclose
        cases h
        have hlength5 := length_of_skipSpace_eq_cons hclose
        refine ⟨List.cons_ne_nil _ _, ?_⟩
        simp only [shortestMembers] at *
        omega
      · cases h
    · cases h
  · cases h

theorem readItems_enough {depth : Nat} (ih : ReadsEnough depth)
    {cs rest : List Char} {items : List Json}
    (h : readItems (depth + 1) cs = some (items, rest)) :
    items ≠ [] ∧ shortestItems items + rest.length ≤ cs.length := by
  unfold readItems at h
  rcases Option.bind_eq_some_iff.mp h with ⟨⟨value, rest1⟩, hvalue, h⟩
  have hvalueLength := ih.value hvalue
  split at h
  · rename_i rest2 hcomma
    have hlength2 := length_of_skipSpace_eq_cons hcomma
    rcases Option.bind_eq_some_iff.mp h with ⟨⟨later, rest3⟩, hlater, h⟩
    cases h
    have hlaterLength := (ih.items hlater).2
    refine ⟨List.cons_ne_nil _ _, ?_⟩
    simp only [shortestItems] at *
    omega
  · rename_i rest2 hclose
    cases h
    have hlength2 := length_of_skipSpace_eq_cons hclose
    refine ⟨List.cons_ne_nil _ _, ?_⟩
    simp only [shortestItems] at *
    omega
  · cases h

theorem readsEnough (depth : Nat) : ReadsEnough depth := by
  induction depth with
  | zero =>
      constructor
      · intro cs rest value h
        cases h
      · intro cs rest members h
        cases h
      · intro cs rest items h
        cases h
  | succ depth ih =>
      exact ⟨readValue_enough ih, readMembers_enough ih, readItems_enough ih⟩

/-- No text is shorter than the value that it decodes to makes it. -/
theorem shortest_le_of_decode {text : String} {value : Json}
    (h : decode text = some value) : shortest value ≤ text.length := by
  unfold decode at h
  split at h
  · rename_i value' rest hread
    split at h
    · cases h
      have hlength := (readsEnough _).value hread
      rw [String.length_toList] at hlength
      omega
    · cases h
  · cases h

/-!
## The order of members

The members of an object have no order: two trees are the same if one turns
into the other by reordering members, at any depth.
-/

inductive SameTree : Json -> Json -> Prop where
  | refl (value : Json) : SameTree value value
  | trans {value value' value'' : Json} :
      SameTree value value' -> SameTree value' value'' ->
      SameTree value value''
  | order {members members' : List (String × Json)} :
      members.Perm members' ->
      SameTree (Json.object members) (Json.object members')
  | member {key : String} {value value' : Json}
      (earlier later : List (String × Json)) :
      SameTree value value' ->
      SameTree (Json.object (earlier ++ (key, value) :: later))
        (Json.object (earlier ++ (key, value') :: later))

theorem shortestMembers_append (first second : List (String × Json)) :
    shortestMembers (first ++ second) =
      shortestMembers first + shortestMembers second := by
  induction first with
  | nil => exact (Nat.zero_add _).symm
  | cons member rest ih =>
      rcases member with ⟨key, value⟩
      simp only [List.cons_append, shortestMembers, ih]
      omega

theorem shortestMembers_perm {members members' : List (String × Json)}
    (h : members.Perm members') :
    shortestMembers members = shortestMembers members' := by
  induction h with
  | nil => rfl
  | cons member _ ih =>
      rcases member with ⟨key, value⟩
      simp only [shortestMembers, ih]
  | swap member member' rest =>
      rcases member with ⟨key, value⟩
      rcases member' with ⟨key', value'⟩
      simp only [shortestMembers]
      omega
  | trans _ _ ih ih' => exact ih.trans ih'

theorem SameTree.shortest_eq {value value' : Json}
    (h : SameTree value value') : shortest value = shortest value' := by
  induction h with
  | refl => rfl
  | trans _ _ ih ih' => exact ih.trans ih'
  | order hperm =>
      simp only [shortest, shortestMembers_perm hperm, hperm.isEmpty_eq]
  | member earlier later _ ih =>
      rw [shortest_object (by simp), shortest_object (by simp),
        shortestMembers_append, shortestMembers_append]
      simp only [shortestMembers, ih]

end JsonText
end Foundation
end XdsService
