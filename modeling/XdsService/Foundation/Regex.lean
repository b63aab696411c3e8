import Mathlib.Data.List.Infix

/-!
# Regular expressions

A backtracking matcher, and the global replacement of what it matches.  From a
position in a text an expression gives the positions where a match can end, the
one that is preferred first.  The expressions are those without captures, so
that an end is all there is to know of a match.
-/

namespace XdsService
namespace Foundation

inductive Regex where
  | empty
  | chars (accepts : Char -> Bool)
  | boundary
  | seq (first second : Regex)
  | alt (first second : Regex)
  | star (body : Regex)

namespace Regex

/-!
## Positions
-/

/-- A place in a text: the character before it and what is behind it. -/
structure Position where
  before : Option Char
  rest : List Char

/-- `\w` -/
def isWord (c : Char) : Bool := c.isAlphanum || decide (c = '_')

/-- `\b`: only one of the characters around the place belongs to a word. -/
def Position.atBoundary (p : Position) : Bool :=
  p.before.any isWord != p.rest.head?.any isWord

/-!
## Matching
-/

/-- As many rounds as possible are preferred; each has to move on. -/
def repeated (round : Position -> List Position) :
    Nat -> Position -> List Position
  | 0, p => [p]
  | n + 1, p =>
      ((round p).filter fun q => decide (q.rest.length < p.rest.length)).flatMap
        (repeated round n) ++ [p]

/-- Where the matches that start here end, the preferred one first. -/
def ends : Regex -> Position -> List Position
  | empty, p => [p]
  | chars accepts, p =>
      match p.rest with
      | [] => []
      | c :: rest => if accepts c then [⟨some c, rest⟩] else []
  | boundary, p => if p.atBoundary then [p] else []
  | seq first second, p => (ends first p).flatMap (ends second)
  | alt first second, p => ends first p ++ ends second p
  | star body, p => repeated (ends body) p.rest.length p

def char (c : Char) : Regex := chars fun d => decide (d = c)

def concat (rs : List Regex) : Regex := rs.foldr seq empty

def word (cs : List Char) : Regex := concat (cs.map char)

def opt (r : Regex) : Regex := alt r empty

def plus (r : Regex) : Regex := seq r (star r)

def times (r : Regex) (n : Nat) : Regex := concat (List.replicate n r)

theorem suffix_of_mem_repeated {round : Position -> List Position}
    (hround : forall p q, q ∈ round p -> q.rest <:+ p.rest) {n : Nat}
    {p q : Position} (h : q ∈ repeated round n p) : q.rest <:+ p.rest := by
  induction n generalizing p with
  | zero =>
      rw [List.mem_singleton.mp h]
  | succ n ih =>
      rcases List.mem_append.mp h with h | h
      · rcases List.mem_flatMap.mp h with ⟨p', hp', hq⟩
        have hmoved := hround p p' (List.mem_filter.mp hp').left
        exact (ih hq).trans hmoved
      · rw [List.mem_singleton.mp h]

theorem suffix_of_mem_ends {r : Regex} {p q : Position} (h : q ∈ r.ends p) :
    q.rest <:+ p.rest := by
  induction r generalizing p q with
  | empty => rw [List.mem_singleton.mp h]
  | chars accepts =>
      unfold ends at h
      split at h
      · cases h
      · rename_i c rest hrest
        split at h
        · rw [List.mem_singleton.mp h, hrest]
          exact List.suffix_cons c rest
        · cases h
  | boundary =>
      unfold ends at h
      split at h
      · rw [List.mem_singleton.mp h]
      · cases h
  | seq first second ihFirst ihSecond =>
      rcases List.mem_flatMap.mp h with ⟨p', hp', hq⟩
      exact (ihSecond hq).trans (ihFirst hp')
  | alt first second ihFirst ihSecond =>
      rcases List.mem_append.mp h with h | h
      · exact ihFirst h
      · exact ihSecond h
  | star body ih => exact suffix_of_mem_repeated (fun p q hq => ih hq) h

/-!
## Searching all of a text
-/

inductive Piece where
  | kept (c : Char)
  | matched (cs : List Char)

def Piece.text : Piece -> List Char
  | kept c => [c]
  | matched cs => cs

def Piece.replaced (f : List Char -> List Char) : Piece -> List Char
  | kept c => [c]
  | matched cs => f cs

/--
The pieces found in at most that many steps: the search goes on behind a match,
and behind one character where there was no match or an empty one.
-/
def piecesWithin (r : Regex) : Nat -> Position -> List Piece
  | 0, _ => []
  | n + 1, p =>
      let later :=
        match p.rest with
        | [] => []
        | c :: rest => Piece.kept c :: piecesWithin r n ⟨some c, rest⟩
      match (r.ends p).head? with
      | none => later
      | some q =>
          if q.rest.length < p.rest.length then
            Piece.matched (p.rest.take (p.rest.length - q.rest.length)) ::
              piecesWithin r n q
          else
            Piece.matched [] :: later

def pieces (r : Regex) (text : List Char) : List Piece :=
  piecesWithin r (text.length + 1) ⟨none, text⟩

/-- `text.replace(r, f)` for an expression with the flag `g` -/
def replaceAll (r : Regex) (f : List Char -> List Char) (text : List Char) :
    List Char :=
  (pieces r text).flatMap (Piece.replaced f)

theorem text_piecesWithin (r : Regex) {n : Nat} {p : Position}
    (hn : p.rest.length < n) :
    (piecesWithin r n p).flatMap Piece.text = p.rest := by
  induction n generalizing p with
  | zero => cases hn
  | succ n ih =>
      have hlater : (match p.rest with
          | [] => []
          | c :: rest => Piece.kept c :: piecesWithin r n ⟨some c, rest⟩
          : List Piece).flatMap Piece.text = p.rest := by
        cases hrest : p.rest with
        | nil => rfl
        | cons c rest =>
            rw [hrest, List.length_cons] at hn
            rw [List.flatMap_cons, ih (Nat.lt_of_succ_lt_succ hn)]
            rfl
      unfold piecesWithin
      cases hends : (r.ends p).head? with
      | none => exact hlater
      | some q =>
          have hsuffix := suffix_of_mem_ends (List.mem_of_mem_head? hends)
          by_cases hmoved : q.rest.length < p.rest.length
          · simp only [hmoved, if_true]
            rw [List.flatMap_cons, ih (by omega)]
            rcases hsuffix with ⟨front, hfront⟩
            rw [← hfront, List.length_append, Nat.add_sub_cancel_right,
              List.take_left]
            rfl
          · simp only [hmoved, if_false]
            exact hlater

theorem text_pieces (r : Regex) (text : List Char) :
    (pieces r text).flatMap Piece.text = text :=
  text_piecesWithin r (Nat.lt_succ_self text.length)

theorem piecesWithin_char_cons (c d : Char) (n : Nat) (before : Option Char)
    (rest : List Char) :
    piecesWithin (char c) (n + 1) ⟨before, d :: rest⟩ =
      (if d = c then Piece.matched [d] else Piece.kept d) ::
        piecesWithin (char c) n ⟨some d, rest⟩ := by
  have hends : (char c).ends ⟨before, d :: rest⟩ =
      if d = c then [⟨some d, rest⟩] else [] := by
    simp [char, ends]
  rw [piecesWithin, hends]
  by_cases hd : d = c
  · simp [hd]
  · simp [hd]

theorem replaced_piecesWithin_char (c : Char) (f : List Char -> List Char)
    {n : Nat} {before : Option Char} {text : List Char}
    (hn : text.length < n) :
    (piecesWithin (char c) n ⟨before, text⟩).flatMap (Piece.replaced f) =
      text.flatMap fun d => if d = c then f [d] else [d] := by
  induction n generalizing before text with
  | zero => cases hn
  | succ n ih =>
      cases text with
      | nil => rfl
      | cons d rest =>
          rw [piecesWithin_char_cons, List.flatMap_cons, List.flatMap_cons,
            ih (Nat.lt_of_succ_lt_succ hn)]
          by_cases hd : d = c
          · rw [if_pos hd, if_pos hd]
            rfl
          · rw [if_neg hd, if_neg hd]
            rfl

/-- Replacing one character treats every character alone. -/
theorem replaceAll_char (c : Char) (f : List Char -> List Char)
    (text : List Char) :
    replaceAll (char c) f text =
      text.flatMap fun d => if d = c then f [d] else [d] :=
  replaced_piecesWithin_char c f (Nat.lt_succ_self text.length)

end Regex
end Foundation
end XdsService
