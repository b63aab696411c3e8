import XdsService.Foundation.Regex

/-!
# Preferred matches

Of all the matches that start at a place the first one is taken.  These are
rules for what it is, construct by construct, and for how a replacement goes on
behind it.
-/

namespace XdsService
namespace Foundation
namespace Regex

variable {r r' : Regex} {accepts : Char -> Bool}
variable {before : Option Char} {c : Char} {cs ds rest text : List Char}

/-- What is before the place behind these characters. -/
def passed : Option Char -> List Char -> Option Char
  | before, [] => before
  | _, c :: cs => passed (some c) cs

@[simp] theorem passed_nil : passed before [] = before := rfl

@[simp] theorem passed_cons : passed before (c :: cs) = passed (some c) cs :=
  rfl

@[simp] theorem passed_append :
    passed before (cs ++ ds) = passed (passed before cs) ds := by
  induction cs generalizing before with
  | nil => rfl
  | cons c cs ih => exact ih

/-- The match that is preferred here is these characters. -/
def Prefers (r : Regex) (before : Option Char) (cs rest : List Char) : Prop :=
  (r.ends ⟨before, cs ++ rest⟩).head? = some ⟨passed before cs, rest⟩

/-- No match starts here. -/
def Refuses (r : Regex) (before : Option Char) (text : List Char) : Prop :=
  r.ends ⟨before, text⟩ = []

theorem length_lt_append (hne : cs ≠ []) (rest : List Char) :
    rest.length < (cs ++ rest).length := by
  rw [List.length_append]
  exact Nat.lt_add_of_pos_left (List.length_pos_iff.mpr hne)

theorem head?_flatMap {found : List Position} {p q : Position}
    {next : Position -> List Position} (hfound : found.head? = some p)
    (hnext : (next p).head? = some q) :
    (found.flatMap next).head? = some q := by
  rcases List.head?_eq_some_iff.mp hfound with ⟨later, rfl⟩
  rcases List.head?_eq_some_iff.mp hnext with ⟨others, hothers⟩
  rw [List.flatMap_cons, hothers]
  rfl

/-!
## Characters and sequences
-/

theorem prefers_empty : Prefers empty before [] rest := rfl

theorem prefers_chars (h : accepts c = true) :
    Prefers (chars accepts) before [c] rest := by
  simp [Prefers, ends, h]

theorem refuses_chars
    (h : forall c, text.head? = some c -> accepts c = false) :
    Refuses (chars accepts) before text := by
  cases text with
  | nil => rfl
  | cons c rest => simp [Refuses, ends, h c rfl]

theorem prefers_char : Prefers (char c) before [c] rest :=
  prefers_chars (decide_eq_true rfl)

theorem refuses_char (h : text.head? ≠ some c) :
    Refuses (char c) before text := by
  apply refuses_chars
  rintro d hd
  apply decide_eq_false
  rintro rfl
  exact h hd

theorem prefers_boundary (h : (Position.mk before rest).atBoundary = true) :
    Prefers boundary before [] rest := by
  simp [Prefers, ends, h]

theorem prefers_seq (h : Prefers r before cs (ds ++ rest))
    (h' : Prefers r' (passed before cs) ds rest) :
    Prefers (seq r r') before (cs ++ ds) rest := by
  unfold Prefers at *
  rw [List.append_assoc, passed_append]
  exact head?_flatMap h h'

theorem refuses_seq_of_ends
    (h : forall q, q ∈ r.ends ⟨before, text⟩ -> Refuses r' q.before q.rest) :
    Refuses (seq r r') before text :=
  List.flatMap_eq_nil_iff.mpr h

theorem refuses_seq (h : Refuses r before text) :
    Refuses (seq r r') before text := by
  apply refuses_seq_of_ends
  intro q hq
  rw [h] at hq
  cases hq

theorem prefers_word : Prefers (word cs) before cs rest := by
  induction cs generalizing before with
  | nil => exact prefers_empty
  | cons c cs ih =>
      have hall : Prefers (word (c :: cs)) before ([c] ++ cs) rest :=
        prefers_seq prefers_char ih
      exact hall

theorem refuses_word (h : text.head? ≠ some c) :
    Refuses (word (c :: cs)) before text :=
  refuses_seq (refuses_char h)

/-!
## Choices
-/

theorem prefers_alt_left (h : Prefers r before cs rest) :
    Prefers (alt r r') before cs rest := by
  rcases List.head?_eq_some_iff.mp h with ⟨others, hothers⟩
  unfold Prefers ends
  rw [hothers]
  rfl

theorem prefers_alt_right (hno : Refuses r before (cs ++ rest))
    (h : Prefers r' before cs rest) : Prefers (alt r r') before cs rest := by
  unfold Prefers ends
  rw [hno]
  exact h

theorem refuses_alt (h : Refuses r before text) (h' : Refuses r' before text) :
    Refuses (alt r r') before text := by
  unfold Refuses ends
  rw [h, h']
  rfl

theorem prefers_opt (h : Prefers r before cs rest) :
    Prefers (opt r) before cs rest :=
  prefers_alt_left h

theorem prefers_opt_nothing (h : Refuses r before rest) :
    Prefers (opt r) before [] rest :=
  prefers_alt_right h prefers_empty

/-!
## Rounds
-/

/-- Rounds that cannot move on any further change nothing. -/
theorem repeated_succ {round : Position -> List Position} {n : Nat}
    {p : Position} (h : p.rest.length ≤ n) :
    repeated round (n + 1) p = repeated round n p := by
  induction n generalizing p with
  | zero =>
      have hnone : (round p).filter
          (fun q => decide (q.rest.length < p.rest.length)) = [] := by
        apply List.filter_eq_nil_iff.mpr
        intro q _
        rw [Nat.le_zero.mp h]
        simp
      unfold repeated
      rw [hnone]
      rfl
  | succ n ih =>
      rw [repeated, repeated]
      congr 1
      apply List.flatMap_congr
      intro q hq
      apply ih
      have hmoved := of_decide_eq_true (List.mem_filter.mp hq).right
      exact Nat.lt_succ_iff.mp (Nat.lt_of_lt_of_le hmoved h)

theorem repeated_of_le {round : Position -> List Position} {n : Nat}
    {p : Position} (h : p.rest.length ≤ n) :
    repeated round n p = repeated round p.rest.length p := by
  induction n, h using Nat.le_induction with
  | base => rfl
  | succ n hn ih => rw [repeated_succ hn, ih]

theorem ends_star (body : Regex) (p : Position) :
    (star body).ends p =
      ((body.ends p).filter fun q =>
        decide (q.rest.length < p.rest.length)).flatMap (star body).ends ++
          [p] := by
  have hstar : forall q, (star body).ends q =
      repeated body.ends q.rest.length q := fun _ => rfl
  rw [hstar, ← repeated_succ (Nat.le_refl _), repeated]
  congr 1
  apply List.flatMap_congr
  intro q hq
  have hmoved := of_decide_eq_true (List.mem_filter.mp hq).right
  rw [hstar, repeated_of_le (Nat.le_of_lt hmoved)]

theorem prefers_star_nil (h : Refuses r before rest) :
    Prefers (star r) before [] rest := by
  unfold Prefers
  rw [ends_star, List.nil_append, h]
  rfl

theorem prefers_star_append (hne : cs ≠ [])
    (h : Prefers r before cs (ds ++ rest))
    (h' : Prefers (star r) (passed before cs) ds rest) :
    Prefers (star r) before (cs ++ ds) rest := by
  have hmoved := length_lt_append hne (ds ++ rest)
  rcases List.head?_eq_some_iff.mp h with ⟨others, hothers⟩
  rcases List.head?_eq_some_iff.mp h' with ⟨further, hfurther⟩
  unfold Prefers
  rw [List.append_assoc, passed_append, ends_star, hothers]
  simp only [List.filter_cons, hmoved, decide_true, if_true,
    List.flatMap_cons, hfurther]
  rfl

theorem prefers_star_chars (hall : forall c, c ∈ cs -> accepts c = true)
    (hstop : forall c, rest.head? = some c -> accepts c = false) :
    Prefers (star (chars accepts)) before cs rest := by
  induction cs generalizing before with
  | nil => exact prefers_star_nil (refuses_chars hstop)
  | cons c cs ih =>
      have hfirst := hall c List.mem_cons_self
      have hrest := fun d hd => hall d (List.mem_cons_of_mem c hd)
      have hstar : Prefers (star (chars accepts)) before ([c] ++ cs) rest :=
        prefers_star_append (List.cons_ne_nil c [])
          (prefers_chars hfirst) (ih hrest)
      exact hstar

theorem prefers_plus_chars (hne : cs ≠ [])
    (hall : forall c, c ∈ cs -> accepts c = true)
    (hstop : forall c, rest.head? = some c -> accepts c = false) :
    Prefers (plus (chars accepts)) before cs rest := by
  cases cs with
  | nil => exact absurd rfl hne
  | cons c cs =>
      have hfirst := hall c List.mem_cons_self
      have hrest := fun d hd => hall d (List.mem_cons_of_mem c hd)
      have hplus : Prefers (plus (chars accepts)) before ([c] ++ cs) rest :=
        prefers_seq (prefers_chars hfirst) (prefers_star_chars hrest hstop)
      exact hplus

theorem prefers_times_chars (hall : forall c, c ∈ cs -> accepts c = true) :
    Prefers (times (chars accepts) cs.length) before cs rest := by
  induction cs generalizing before with
  | nil => exact prefers_empty
  | cons c cs ih =>
      have hfirst := hall c List.mem_cons_self
      have hrest := fun d hd => hall d (List.mem_cons_of_mem c hd)
      have htimes : Prefers (times (chars accepts) (c :: cs).length) before
          ([c] ++ cs) rest :=
        prefers_seq (prefers_chars hfirst) (ih hrest)
      exact htimes

/-- Every match of a star over characters consists of these characters. -/
theorem accepts_of_mem_repeated {n : Nat} {p q : Position}
    (h : q ∈ repeated (chars accepts).ends n p) :
    exists front, p.rest = front ++ q.rest ∧
      forall c, c ∈ front -> accepts c = true := by
  induction n generalizing p with
  | zero =>
      rw [List.mem_singleton.mp h]
      exact ⟨[], rfl, by simp⟩
  | succ n ih =>
      rcases List.mem_append.mp h with h | h
      · rcases List.mem_flatMap.mp h with ⟨p', hp', hq⟩
        rcases ih hq with ⟨front, hfront, hall⟩
        rcases p with ⟨before, text⟩
        have hfirst := (List.mem_filter.mp hp').left
        cases text with
        | nil => cases hfirst
        | cons c rest =>
            by_cases hc : accepts c = true
            · simp only [ends, hc, if_true, List.mem_singleton] at hfirst
              rw [hfirst] at hfront
              refine ⟨c :: front, congrArg (List.cons c) hfront, ?_⟩
              intro d hd
              rcases List.mem_cons.mp hd with rfl | hd
              · exact hc
              · exact hall d hd
            · simp [ends, hc] at hfirst
      · rw [List.mem_singleton.mp h]
        exact ⟨[], rfl, by simp⟩

/-!
## Replacing
-/

variable {f : List Char -> List Char}

/-- What the text behind a place is replaced by. -/
def replaceFrom (r : Regex) (f : List Char -> List Char)
    (before : Option Char) (text : List Char) : List Char :=
  (piecesWithin r (text.length + 1) ⟨before, text⟩).flatMap (Piece.replaced f)

theorem piecesWithin_succ {n : Nat} {p : Position} (h : p.rest.length < n) :
    piecesWithin r (n + 1) p = piecesWithin r n p := by
  induction n generalizing p with
  | zero => cases h
  | succ n ih =>
      rcases p with ⟨before, text⟩
      have hlater : forall c rest, text = c :: rest ->
          piecesWithin r (n + 1) ⟨some c, rest⟩ =
            piecesWithin r n ⟨some c, rest⟩ := by
        rintro c rest rfl
        exact ih (Nat.lt_of_succ_lt_succ h)
      have hmatched : forall q : Position, q.rest.length < text.length ->
          piecesWithin r (n + 1) q = piecesWithin r n q :=
        fun q hq => ih (Nat.lt_of_lt_of_le hq (Nat.lt_succ_iff.mp h))
      rw [piecesWithin, piecesWithin]
      cases text with
      | nil =>
          cases (r.ends ⟨before, []⟩).head? with
          | none => rfl
          | some q => rfl
      | cons c rest =>
          simp only [hlater c rest rfl]
          cases (r.ends ⟨before, c :: rest⟩).head? with
          | none => rfl
          | some q =>
              by_cases hq : q.rest.length < (c :: rest).length
              · simp only [hq, if_true, hmatched q hq]
              · simp only [hq, if_false]

theorem flatMap_piecesWithin {n : Nat} (h : text.length < n) :
    (piecesWithin r n ⟨before, text⟩).flatMap (Piece.replaced f) =
      replaceFrom r f before text := by
  induction n, h using Nat.le_induction with
  | base => rfl
  | succ n hn ih => rw [piecesWithin_succ hn, ih]

theorem replaceFrom_nil (h : Refuses r before []) :
    replaceFrom r f before [] = [] := by
  unfold replaceFrom piecesWithin
  rw [h]
  rfl

theorem replaceFrom_cons (h : Refuses r before (c :: rest)) :
    replaceFrom r f before (c :: rest) = c :: replaceFrom r f (some c) rest := by
  unfold replaceFrom
  rw [piecesWithin, h]
  rfl

theorem replaceFrom_append (hne : cs ≠ []) (h : Prefers r before cs rest) :
    replaceFrom r f before (cs ++ rest) =
      f cs ++ replaceFrom r f (passed before cs) rest := by
  have hmoved := length_lt_append hne rest
  have hcut : (cs ++ rest).take ((cs ++ rest).length - rest.length) = cs := by
    rw [List.length_append, Nat.add_sub_cancel_right, List.take_left]
  unfold replaceFrom
  rw [piecesWithin, h]
  simp only [hmoved, if_true, hcut, List.flatMap_cons]
  rw [flatMap_piecesWithin hmoved]
  rfl

end Regex
end Foundation
end XdsService
