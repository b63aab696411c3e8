import Mathlib.Data.List.Basic
import Mathlib.Data.List.Induction

/-!
# Runs of a step relation

A system answers actions one after another: `step s a r s'` says that in
state `s` the action `a` can be answered by `r` and lead to
`s'`.  A run records every such move with the states around it.  The rules
below are the ways the properties of runs are proved: an invariant, a property
of each move, and a property that holds of all moves exactly if a condition
does.
-/

namespace XdsService
namespace Foundation

structure Move (state action answer : Type) where
  before : state
  action : action
  answer : answer
  after : state

variable {state action answer : Type}

inductive Run (step : state -> action -> answer -> state -> Prop)
    (start : state) : List (Move state action answer) -> state -> Prop where
  | nil : Run step start [] start
  | snoc {moves : List (Move state action answer)} {s s' : state}
      {a : action} {r : answer} :
      Run step start moves s ->
      step s a r s' ->
      Run step start (moves ++ [⟨s, a, r, s'⟩]) s'

namespace Run

variable {step : state -> action -> answer -> state -> Prop}
variable {start s : state} {moves : List (Move state action answer)}

/-!
## Invariants
-/

theorem invariant_of_moves {I : state -> Prop}
    {C : Move state action answer -> Prop}
    (hstart : I start)
    (hstep : forall {s a r s'},
      I s -> step s a r s' -> C ⟨s, a, r, s'⟩ -> I s')
    (hrun : Run step start moves s)
    (hmoves : forall m, m ∈ moves -> C m) :
    I s := by
  induction hrun with
  | nil => exact hstart
  | snoc _ hmove ih =>
      have hbefore := ih (fun m hm => hmoves m (by simp [hm]))
      exact hstep hbefore hmove (hmoves _ (by simp))

theorem invariant {I : state -> Prop} (hstart : I start)
    (hstep : forall {s a r s'}, I s -> step s a r s' -> I s')
    (hrun : Run step start moves s) :
    I s :=
  invariant_of_moves (C := fun _ => True) hstart
    (fun hs hmove _ => hstep hs hmove) hrun (fun _ _ => trivial)

/-- What each move gives under an invariant holds of all moves of a run. -/
theorem forall_moves {I : state -> Prop}
    {P : Move state action answer -> Prop}
    (hstart : I start)
    (hstep : forall {s a r s'}, I s -> step s a r s' -> I s')
    (hmove : forall {s a r s'}, I s -> step s a r s' -> P ⟨s, a, r, s'⟩)
    (hrun : Run step start moves s) :
    forall m, m ∈ moves -> P m := by
  induction hrun with
  | nil =>
      intro m hm
      cases hm
  | snoc hinit hlast ih =>
      intro m hm
      rcases List.mem_append.mp hm with hm | hm
      · exact ih m hm
      · have hI := invariant hstart hstep hinit
        rw [List.mem_singleton.mp hm]
        exact hmove hI hlast

/-!
## Good moves and a condition for them

`Good` is wanted of every move.  Where the invariant survives good moves
and a move from the invariant is good exactly if it meets `Cond`, all moves
of a run are good exactly if all meet `Cond`: the first move that violates
one also violates the other.
-/

private theorem forall_iff_aux {I : state -> Prop}
    {Good Cond : Move state action answer -> Prop}
    (hstart : I start)
    (hiff : forall {s a r s'}, I s -> step s a r s' ->
      (Good ⟨s, a, r, s'⟩ <-> Cond ⟨s, a, r, s'⟩))
    (hkeep : forall {s a r s'}, I s -> step s a r s' ->
      Good ⟨s, a, r, s'⟩ -> I s')
    (hrun : Run step start moves s) :
    ((forall m, m ∈ moves -> Good m) <-> (forall m, m ∈ moves -> Cond m)) ∧
      ((forall m, m ∈ moves -> Good m) -> I s) := by
  induction hrun with
  | nil => simp [hstart]
  | snoc _ hlast ih =>
      rcases ih with ⟨ihIff, ihKeep⟩
      simp only [List.forall_mem_append, List.forall_mem_singleton]
      constructor
      · constructor
        · intro hgood
          have hbefore := ihKeep hgood.left
          exact ⟨ihIff.mp hgood.left, (hiff hbefore hlast).mp hgood.right⟩
        · intro hcond
          have hgood := ihIff.mpr hcond.left
          exact ⟨hgood, (hiff (ihKeep hgood) hlast).mpr hcond.right⟩
      · intro hgood
        exact hkeep (ihKeep hgood.left) hlast hgood.right

theorem forall_good_iff {I : state -> Prop}
    {Good Cond : Move state action answer -> Prop}
    (hstart : I start)
    (hiff : forall {s a r s'}, I s -> step s a r s' ->
      (Good ⟨s, a, r, s'⟩ <-> Cond ⟨s, a, r, s'⟩))
    (hkeep : forall {s a r s'}, I s -> step s a r s' ->
      Good ⟨s, a, r, s'⟩ -> I s')
    (hrun : Run step start moves s) :
    (forall m, m ∈ moves -> Good m) <-> (forall m, m ∈ moves -> Cond m) :=
  (forall_iff_aux hstart hiff hkeep hrun).left

/-!
## Putting a move in front, and cutting a run in two
-/

theorem cons {s' : state} {a : action} {r : answer}
    (hmove : step start a r s') (hrun : Run step s' moves s) :
    Run step start (⟨start, a, r, s'⟩ :: moves) s := by
  induction hrun with
  | nil => exact Run.snoc Run.nil hmove
  | snoc _ hlast ih => exact Run.snoc ih hlast

theorem snoc_inv {m : Move state action answer}
    (hrun : Run step start (moves ++ [m]) s) :
    Run step start moves m.before ∧
      step m.before m.action m.answer m.after ∧ m.after = s := by
  generalize hall : moves ++ [m] = all at hrun
  cases hrun with
  | nil => simp at hall
  | snoc hinit hlast =>
      have hpair := List.append_inj' hall rfl
      have hm := List.singleton_injective hpair.right
      subst hm
      rw [hpair.left]
      exact ⟨hinit, hlast, rfl⟩

theorem split {first second : List (Move state action answer)}
    (hrun : Run step start (first ++ second) s) :
    exists middle, Run step start first middle ∧ Run step middle second s := by
  induction second using List.reverseRecOn generalizing s with
  | nil =>
      rw [List.append_nil] at hrun
      exact ⟨s, hrun, Run.nil⟩
  | append_singleton front m ih =>
      rw [← List.append_assoc] at hrun
      rcases snoc_inv hrun with ⟨hbefore, hmove, rfl⟩
      rcases ih hbefore with ⟨middle, hfirst, hsecond⟩
      exact ⟨middle, hfirst, Run.snoc hsecond hmove⟩

theorem nil_inv (hrun : Run step start [] s) : s = start := by
  generalize hall : ([] : List (Move state action answer)) = all at hrun
  cases hrun with
  | nil => rfl
  | snoc _ _ => simp at hall

theorem cons_inv {m : Move state action answer}
    (hrun : Run step start (m :: moves) s) :
    m.before = start ∧ step start m.action m.answer m.after ∧
      Run step m.after moves s := by
  have hcut : Run step start ([m] ++ moves) s := hrun
  rcases split hcut with ⟨middle, hfirst, hrest⟩
  have hone : Run step start ([] ++ [m]) middle := hfirst
  rcases snoc_inv hone with ⟨hbefore, hmove, rfl⟩
  have hstart := nil_inv hbefore
  rw [hstart] at hmove
  exact ⟨hstart, hmove, hrest⟩

/-- A move inside a run, with what led to it and what it led to. -/
theorem at_cut {m : Move state action answer}
    {earlier later : List (Move state action answer)}
    (hrun : Run step start (earlier ++ m :: later) s) :
    Run step start earlier m.before ∧
      step m.before m.action m.answer m.after ∧
      Run step m.after later s := by
  rcases split hrun with ⟨middle, hbefore, hrest⟩
  rcases cons_inv hrest with ⟨rfl, hmove, hlater⟩
  exact ⟨hbefore, hmove, hlater⟩

end Run

/-!
## The last move of a kind

`LastSince opened closed moves` says that some move opened, and that after
the last such move none closed.
-/

def LastSince (opened closed : Move state action answer -> Prop)
    (moves : List (Move state action answer)) : Prop :=
  exists earlier m later,
    moves = earlier ++ m :: later ∧ opened m ∧
      (forall m', m' ∈ later -> ¬ opened m') ∧
      (forall m', m' ∈ later -> ¬ closed m')

section LastSince

variable {opened closed : Move state action answer -> Prop}
variable {moves : List (Move state action answer)}
variable {m : Move state action answer}

theorem not_lastSince_nil :
    ¬ LastSince opened closed ([] : List (Move state action answer)) := by
  intro h
  rcases h with ⟨earlier, m, later, hmoves, _⟩
  simp at hmoves

theorem lastSince_snoc_of_opened (hm : opened m) :
    LastSince opened closed (moves ++ [m]) :=
  ⟨moves, m, [], rfl, hm, by simp, by simp⟩

theorem lastSince_snoc_of_not_opened (hm : ¬ opened m) :
    LastSince opened closed (moves ++ [m]) <->
      LastSince opened closed moves ∧ ¬ closed m := by
  constructor
  · intro h
    rcases h with ⟨earlier, x, later, hmoves, hx, hopen, hclosed⟩
    rcases List.eq_nil_or_concat later with rfl | ⟨front, y, rfl⟩
    · have hmx : m = x := by
        simpa using (List.append_inj' hmoves rfl).right
      exact absurd (hmx ▸ hx) hm
    · have hcut : moves ++ [m] = (earlier ++ x :: front) ++ [y] := by
        simpa using hmoves
      have hpair := List.append_inj' hcut rfl
      have hmy : m = y := by simpa using hpair.right
      refine ⟨⟨earlier, x, front, hpair.left, hx, ?_, ?_⟩, ?_⟩
      · exact fun m' hm' => hopen m' (by simp [hm'])
      · exact fun m' hm' => hclosed m' (by simp [hm'])
      · exact hmy ▸ hclosed y (by simp)
  · intro h
    rcases h with ⟨⟨earlier, x, later, rfl, hx, hopen, hclosed⟩, hm'⟩
    refine ⟨earlier, x, later ++ [m], by simp, hx, ?_, ?_⟩
    · simpa [or_imp, forall_and] using ⟨hopen, hm⟩
    · simpa [or_imp, forall_and] using ⟨hclosed, hm'⟩

end LastSince

/-!
## The first move of a kind
-/

/-- Where a list is cut at two places, one of them comes first. -/
theorem cut_cases {α : Type} {earlier later before behind : List α} {a b : α}
    (h : earlier ++ a :: later = before ++ b :: behind) :
    (earlier = before ∧ a = b ∧ later = behind) ∨
      (exists gap, before = earlier ++ a :: gap ∧
        later = gap ++ b :: behind) ∨
      exists gap, earlier = before ++ b :: gap ∧
        behind = gap ++ a :: later := by
  rcases List.append_eq_append_iff.mp h with
    ⟨gap, rfl, hrest⟩ | ⟨gap, rfl, hrest⟩
  · cases gap with
    | nil =>
        rcases List.cons_eq_cons.mp hrest with ⟨rfl, rfl⟩
        exact Or.inl ⟨(List.append_nil _).symm, rfl, rfl⟩
    | cons first rest =>
        rcases List.cons_eq_cons.mp hrest with ⟨rfl, rfl⟩
        exact Or.inr (Or.inl ⟨rest, rfl, rfl⟩)
  · cases gap with
    | nil =>
        rcases List.cons_eq_cons.mp hrest with ⟨rfl, rfl⟩
        exact Or.inl ⟨List.append_nil _, rfl, rfl⟩
    | cons first rest =>
        rcases List.cons_eq_cons.mp hrest with ⟨rfl, rfl⟩
        exact Or.inr (Or.inr ⟨rest, rfl, rfl⟩)

/-- The move is the first one of the kind. -/
def First (kind : Move state action answer -> Prop)
    (moves : List (Move state action answer))
    (m : Move state action answer) : Prop :=
  exists earlier later,
    moves = earlier ++ m :: later ∧ kind m ∧
      forall m', m' ∈ earlier -> ¬ kind m'

section First

variable {kind : Move state action answer -> Prop}
variable {moves : List (Move state action answer)}
variable {m : Move state action answer}

theorem First.append (h : First kind moves m)
    (more : List (Move state action answer)) :
    First kind (moves ++ more) m := by
  rcases h with ⟨earlier, later, rfl, hm, hnone⟩
  exact ⟨earlier, later ++ more, by simp, hm, hnone⟩

theorem first_snoc (hnone : forall m', m' ∈ moves -> ¬ kind m') (hm : kind m) :
    First kind (moves ++ [m]) m :=
  ⟨moves, [], rfl, hm, hnone⟩

theorem First.holds (h : First kind moves m) : kind m := by
  rcases h with ⟨earlier, later, _, hm, _⟩
  exact hm

theorem First.mem (h : First kind moves m) : m ∈ moves := by
  rcases h with ⟨earlier, later, rfl, _, _⟩
  simp

theorem First.unique {other : Move state action answer}
    (h : First kind moves m) (h' : First kind moves other) : m = other := by
  rcases h with ⟨earlier, later, rfl, hm, hnone⟩
  rcases h' with ⟨before, behind, hcut, hother, hnone'⟩
  rcases cut_cases hcut with
    ⟨_, hsame, _⟩ | ⟨gap, rfl, _⟩ | ⟨gap, rfl, _⟩
  · exact hsame
  · exact absurd hm (hnone' m (by simp))
  · exact absurd hother (hnone other (by simp))

end First

/-!
## What happens, in its order

`Happens item m` says that the move `m` brings about the item, say that it
answers a question.  Where no move brings about more than one, a chronicle
lists the items in the order of the moves, and leaves none out.
-/

inductive Chronicle {item : Type}
    (happens : item -> Move state action answer -> Prop) :
    List (Move state action answer) -> List item -> Prop where
  | nil : Chronicle happens [] []
  | adds {moves : List (Move state action answer)} {items : List item}
      {m : Move state action answer} {last : item} :
      Chronicle happens moves items ->
      (forall i, happens i m <-> i = last) ->
      Chronicle happens (moves ++ [m]) (items ++ [last])
  | passes {moves : List (Move state action answer)} {items : List item}
      {m : Move state action answer} :
      Chronicle happens moves items ->
      (forall i, ¬ happens i m) ->
      Chronicle happens (moves ++ [m]) items

section Chronicle

variable {item : Type} {happens : item -> Move state action answer -> Prop}
variable {moves : List (Move state action answer)} {items added : List item}
variable {m : Move state action answer}

theorem eq_nil_or_singleton (hnodup : added.Nodup)
    (hone : exists only, forall i, i ∈ added -> i = only) :
    added = [] ∨ exists last, added = [last] := by
  rcases hone with ⟨only, hone⟩
  match added with
  | [] => exact Or.inl rfl
  | [last] => exact Or.inr ⟨last, rfl⟩
  | first :: second :: rest =>
      have hsame : first = second := by
        rw [hone first (by simp), hone second (by simp)]
      rw [hsame] at hnodup
      simp at hnodup

/-- One more move, with all that it brings about. -/
theorem Chronicle.snoc (h : Chronicle happens moves items)
    (hadded : forall i, i ∈ added <-> happens i m) (hnodup : added.Nodup)
    (hone : exists only, forall i, happens i m -> i = only) :
    Chronicle happens (moves ++ [m]) (items ++ added) := by
  rcases hone with ⟨only, hone⟩
  rcases eq_nil_or_singleton hnodup
    ⟨only, fun i hmem => hone i ((hadded i).mp hmem)⟩ with rfl | ⟨last, rfl⟩
  · rw [List.append_nil]
    apply h.passes
    intro i hhappens
    cases (hadded i).mpr hhappens
  · apply h.adds
    intro i
    rw [← hadded, List.mem_singleton]

end Chronicle

end Foundation
end XdsService
