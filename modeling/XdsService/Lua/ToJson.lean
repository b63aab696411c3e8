import XdsService.Lua.Value

/-!
# ToJson

The text of a tree of tables is made by quoting what it finds.  The text of a
plain tree is well formed and decodes to the tree of the texts; the text of
any other tree does not.
-/

namespace XdsService
namespace Lua

open Foundation
open Foundation.JsonText

/-!
## The source
-/

/-- The key in the text: quoted unless `type(k) == "number"`. -/
def keyText : Key -> String
  | Key.string text => "\"" ++ text ++ "\""
  | Key.integer number => toString number

mutual

def toJson : Value -> String
  | Value.table entries => toJsonLoop "\x7b" 0 entries ++ "\x7d"
  | Value.leaf leaf => "\"" ++ leaf.tostring ++ "\""

/-- The loop of `ToJson`, with its text `s` and its counter `i`. -/
def toJsonLoop (s : String) (i : Nat) : List (Key × Value) -> String
  | [] => s
  | (k, v) :: rest =>
      toJsonLoop
        ((if i > 0 then s ++ "," else s) ++ keyText k ++ ":" ++ toJson v)
        (i + 1) rest

end

/-!
## What the text is for
-/

mutual

/-- The tree with its keys and leaves replaced by their texts. -/
def stringified : Value -> Json
  | Value.leaf leaf => Json.string leaf.tostring
  | Value.table entries => Json.object (stringifiedEntries entries)

def stringifiedEntries : List (Key × Value) -> List (String × Json)
  | [] => []
  | (k, v) :: rest => (k.tostring, stringified v) :: stringifiedEntries rest

end

/-- The text is well formed and decodes to the tree of the texts. -/
def DecodesBack (v : Value) : Prop :=
  exists j, decode (toJson v) = some j ∧ SameTree (stringified v) j

/-!
## The text of a table
-/

def entryText (entry : Key × Value) : List Char :=
  (keyText entry.1).toList ++ ':' :: (toJson entry.2).toList

def laterText (entries : List (Key × Value)) : List Char :=
  entries.flatMap fun entry => ',' :: entryText entry

theorem laterText_cons (entry : Key × Value) (later : List (Key × Value)) :
    laterText (entry :: later) = ',' :: (entryText entry ++ laterText later) :=
  rfl

theorem toJsonLoop_of_pos (s : String) {i : Nat} (h : 0 < i)
    (entries : List (Key × Value)) :
    (toJsonLoop s i entries).toList = s.toList ++ laterText entries := by
  induction entries generalizing s i with
  | nil => exact (List.append_nil _).symm
  | cons entry rest ih =>
      rcases entry with ⟨k, v⟩
      rw [toJsonLoop, ih _ (Nat.succ_pos i), if_pos h]
      simp [laterText, entryText]

theorem toJson_leaf (leaf : Leaf) :
    (toJson (Value.leaf leaf)).toList =
      '"' :: (leaf.tostring.toList ++ ['"']) := by
  simp [toJson]

theorem toJson_empty : (toJson (Value.table [])).toList = ['\x7b', '\x7d'] := by
  simp [toJson, toJsonLoop]

theorem toJson_table (entry : Key × Value) (later : List (Key × Value)) :
    (toJson (Value.table (entry :: later))).toList =
      '\x7b' :: (entryText entry ++ laterText later ++ ['\x7d']) := by
  rcases entry with ⟨k, v⟩
  rw [toJson, toJsonLoop, String.toList_append,
    toJsonLoop_of_pos _ (Nat.succ_pos 0)]
  simp [entryText]

/-!
## Reading the text of a plain tree
-/

/-- With this depth the texts of plain trees are read back. -/
structure ReadsBack (depth : Nat) : Prop where
  value : forall {v : Value} (rest : List Char), v.Plain ->
    (toJson v).toList.length ≤ depth ->
    readValue depth ((toJson v).toList ++ rest) = some (stringified v, rest)
  members : forall {entry : Key × Value} {later : List (Key × Value)}
    (rest : List Char), PlainEntries (entry :: later) ->
    (entryText entry ++ laterText later).length < depth ->
    readMembers depth (entryText entry ++ laterText later ++ '\x7d' :: rest) =
      some (stringifiedEntries (entry :: later), rest)

theorem entryText_string (text : String) (v : Value) :
    entryText (Key.string text, v) =
      '"' :: (text.toList ++ '"' :: ':' :: (toJson v).toList) := by
  simp [entryText, keyText]

theorem readValue_back {depth : Nat} (ih : ReadsBack depth) {v : Value}
    (rest : List Char) (hplain : v.Plain)
    (hdepth : (toJson v).toList.length ≤ depth + 1) :
    readValue (depth + 1) ((toJson v).toList ++ rest) =
      some (stringified v, rest) := by
  cases v with
  | leaf leaf =>
      rw [toJson_leaf, List.cons_append, List.append_assoc]
      exact readValue_string
        (readString_of_plainText (Leaf.plain_iff.mp hplain) rest) depth
  | table entries =>
      cases entries with
      | nil =>
          rw [toJson_empty]
          exact readValue_empty depth rest
      | cons entry later =>
          have hmembers := ih.members rest hplain
            (by
              rw [toJson_table] at hdepth
              simp only [List.length_cons, List.length_append,
                List.length_nil] at hdepth ⊢
              omega)
          rcases entry with ⟨k, v⟩
          cases k with
          | integer number => exact absurd hplain.1 id
          | string text =>
              rw [toJson_table, entryText_string]
              rw [entryText_string] at hmembers
              simp only [List.cons_append, List.append_assoc,
                List.nil_append] at hmembers ⊢
              exact readValue_object hmembers

theorem readMembers_back {depth : Nat} (ih : ReadsBack depth)
    {entry : Key × Value} {later : List (Key × Value)} (rest : List Char)
    (hplain : PlainEntries (entry :: later))
    (hdepth : (entryText entry ++ laterText later).length < depth + 1) :
    readMembers (depth + 1)
        (entryText entry ++ laterText later ++ '\x7d' :: rest) =
      some (stringifiedEntries (entry :: later), rest) := by
  rcases entry with ⟨k, v⟩
  rcases hplain with ⟨hk, hv, hlater⟩
  cases k with
  | integer number => exact absurd hk id
  | string text =>
      rw [entryText_string] at hdepth ⊢
      simp only [List.cons_append, List.append_assoc, List.length_cons,
        List.length_append] at hdepth ⊢
      have hkey := readString_of_plainText hk
        (':' :: ((toJson v).toList ++ (laterText later ++ '\x7d' :: rest)))
      have hvalue := ih.value (laterText later ++ '\x7d' :: rest) hv
        (by omega)
      cases later with
      | nil => exact readMembers_last hkey hvalue
      | cons entry' later' =>
          rw [laterText_cons] at hdepth hvalue hkey
          have hmembers := ih.members rest hlater
            (by
              rw [List.length_cons] at hdepth
              omega)
          rw [laterText_cons]
          exact readMembers_more hkey hvalue hmembers

theorem readsBack (depth : Nat) : ReadsBack depth := by
  induction depth with
  | zero =>
      constructor
      · intro v rest _ hdepth
        cases v with
        | leaf leaf =>
            rw [toJson_leaf] at hdepth
            cases hdepth
        | table entries =>
            cases entries with
            | nil =>
                rw [toJson_empty] at hdepth
                cases hdepth
            | cons entry later =>
                rw [toJson_table] at hdepth
                cases hdepth
      · intro entry later rest _ hdepth
        cases hdepth
  | succ depth ih =>
      constructor
      · intro v
        exact readValue_back ih
      · intro entry later
        exact readMembers_back ih

theorem decode_toJson {v : Value} (h : v.Plain) :
    decode (toJson v) = some (stringified v) := by
  apply decode_of_readValue
  have hread := (readsBack _).value [] h (Nat.le_succ _)
  rw [List.append_nil, String.length_toList] at hread
  exact hread

/-- Plain trees that differ in a text have different texts. -/
theorem stringified_eq_of_toJson_eq {v v' : Value} (hv : v.Plain)
    (hv' : v'.Plain) (h : toJson v = toJson v') :
    stringified v = stringified v' := by
  have hdecode := decode_toJson hv
  rw [h, decode_toJson hv'] at hdecode
  exact (Option.some.inj hdecode).symm

/-!
## The length of the text

The text is never longer than the shortest one that decodes to the tree of the
texts, and it is shorter where something in the tree is not plain.
-/

theorem toJson_quotes (text : String) :
    text.length + 2 ≤ quotedLength text ∧
      (quotedLength text ≤ text.length + 2 -> PlainText text.toList) := by
  have hlength := length_le_charsLength text.toList
  rw [String.length_toList] at hlength
  constructor
  · exact Nat.add_le_add_right hlength 2
  · intro h
    apply plainText_of_charsLength_le
    rw [String.length_toList]
    exact Nat.le_of_add_le_add_right h

theorem keyText_fits (k : Key) :
    (keyText k).length ≤ quotedLength k.tostring ∧
      (quotedLength k.tostring ≤ (keyText k).length -> k.Plain) := by
  have hquotes := toJson_quotes k.tostring
  cases k with
  | string text =>
      have hlength : (keyText (Key.string text)).length = text.length + 2 := by
        have hquote : "\"".length = 1 := rfl
        simp only [keyText, String.length_append, hquote]
        omega
      rw [hlength]
      exact hquotes
  | integer number =>
      have hlength := hquotes.1
      constructor
      · exact Nat.le_trans (Nat.le_add_right _ 2) hlength
      · intro h
        exact absurd (Nat.le_trans hlength h) (by simp [keyText, Key.tostring])

mutual

theorem toJson_fits : forall v : Value,
    (toJson v).length ≤ shortest (stringified v) ∧
      (shortest (stringified v) ≤ (toJson v).length -> v.Plain)
  | Value.leaf leaf => by
      have hlength :
          (toJson (Value.leaf leaf)).length = leaf.tostring.length + 2 := by
        rw [← String.length_toList, toJson_leaf, List.length_cons,
          List.length_append, String.length_toList]
        rfl
      rw [hlength]
      rcases toJson_quotes leaf.tostring with ⟨hle, hplain⟩
      exact ⟨hle, fun h => Leaf.plain_iff.mpr (hplain h)⟩
  | Value.table [] => by
      rw [← String.length_toList, toJson_empty]
      exact ⟨Nat.le_refl 2, fun _ => trivial⟩
  | Value.table (entry :: later) => by
      have hlength : (toJson (Value.table (entry :: later))).length =
          (laterText (entry :: later)).length + 1 := by
        rw [← String.length_toList, toJson_table, laterText_cons,
          List.length_cons, List.length_cons, List.length_append]
        rfl
      have hshortest : shortest (stringified (Value.table (entry :: later))) =
          shortestMembers (stringifiedEntries (entry :: later)) + 1 :=
        shortest_object (List.cons_ne_nil _ _)
      rcases laterText_fits (entry :: later) with ⟨hle, hplain⟩
      rw [hlength, hshortest]
      exact ⟨Nat.succ_le_succ hle, fun h => hplain (Nat.le_of_succ_le_succ h)⟩

theorem laterText_fits : forall entries : List (Key × Value),
    (laterText entries).length ≤
        shortestMembers (stringifiedEntries entries) ∧
      (shortestMembers (stringifiedEntries entries) ≤
        (laterText entries).length -> PlainEntries entries)
  | [] => ⟨Nat.le_refl 0, fun _ => trivial⟩
  | (k, v) :: rest => by
      have hlength : (laterText ((k, v) :: rest)).length =
          (keyText k).length + (toJson v).length +
            2 + (laterText rest).length := by
        simp only [laterText_cons, entryText, List.length_cons,
          List.length_append, String.length_toList]
        omega
      rcases keyText_fits k with ⟨hkey, hkeyPlain⟩
      rcases toJson_fits v with ⟨hvalue, hvaluePlain⟩
      rcases laterText_fits rest with ⟨hrest, hrestPlain⟩
      simp only [stringifiedEntries, shortestMembers, hlength]
      constructor
      · omega
      · intro h
        exact ⟨hkeyPlain (by omega), hvaluePlain (by omega),
          hrestPlain (by omega)⟩

end

/-- The text decodes to the tree of the texts exactly if the tree is plain. -/
theorem decodes_back_iff (v : Value) : DecodesBack v <-> v.Plain := by
  constructor
  · intro h
    rcases h with ⟨j, hdecode, hsame⟩
    apply (toJson_fits v).2
    rw [hsame.shortest_eq]
    exact shortest_le_of_decode hdecode
  · intro h
    exact ⟨stringified v, decode_toJson h, SameTree.refl _⟩

/-- An array of one string, and a string that holds a quote. -/
theorem array_and_quote_not_decoded :
    ¬ DecodesBack
        (Value.table [(Key.integer 1, Value.leaf (Leaf.string "a"))]) ∧
      ¬ DecodesBack (Value.leaf (Leaf.string "\"")) := by
  have harray : decode (toJson (Value.table
      [(Key.integer 1, Value.leaf (Leaf.string "a"))])) = none := by
    rfl
  have hquote : decode (toJson (Value.leaf (Leaf.string "\""))) = none := by
    rfl
  constructor
  · intro h
    rcases h with ⟨j, hdecode, _⟩
    rw [harray] at hdecode
    cases hdecode
  · intro h
    rcases h with ⟨j, hdecode, _⟩
    rw [hquote] at hdecode
    cases hdecode

end Lua
end XdsService
