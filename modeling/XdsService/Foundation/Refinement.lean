import XdsService.Foundation.Program

/-!
# Programs that do what a specification says

A specification works on an abstract state and may leave open what happens.  A
program refines it if, from a state that stands for an abstract one, it returns
what the specification returns, in a state that stands for the abstract state
behind it; where the specification leaves open what happens, the program takes
one of the exits agreed on.
-/

namespace XdsService
namespace Foundation
namespace Refinement

open Program

variable {ε σ τ α β : Type}

/-- A result of the program and what the specification says of it. -/
inductive Follows (R : σ -> τ -> Prop) (E : ε -> Prop) :
    EStateM.Result ε σ α -> Option (α × τ) -> Prop where
  | returned {a : α} {s : σ} {t : τ} :
      R s t -> Follows R E (.ok a s) (some (a, t))
  | leftOpen {e : ε} {s : σ} : E e -> Follows R E (.error e s) none

def Refines (R : σ -> τ -> Prop) (E : ε -> Prop) (m : EStateM ε σ α)
    (spec : StateT τ Option α) : Prop :=
  forall s t, R s t -> Follows R E (m.run s) (spec.run t)

variable {R : σ -> τ -> Prop} {E : ε -> Prop}
variable {m : EStateM ε σ α} {spec : StateT τ Option α}

theorem refines_pure (a : α) :
    Refines R E (pure a : EStateM ε σ α) (pure a) :=
  fun _ _ h => Follows.returned h

theorem refines_bind {f : α -> EStateM ε σ β} {g : α -> StateT τ Option β}
    (hm : Refines R E m spec) (hf : forall a, Refines R E (f a) (g a)) :
    Refines R E (m >>= f) (spec >>= g) := by
  intro s t h
  have hfirst := hm s t h
  rw [StateT.run_bind]
  cases hrun : m.run s with
  | ok a s1 =>
      rw [hrun] at hfirst
      rw [run_bind_of_ok hrun]
      cases hspec : spec.run t with
      | none =>
          rw [hspec] at hfirst
          cases hfirst
      | some p =>
          rw [hspec] at hfirst
          cases hfirst with
          | returned h1 => exact hf a s1 _ h1
  | error e s1 =>
      rw [hrun] at hfirst
      rw [run_bind_of_error hrun]
      cases hspec : spec.run t with
      | none =>
          rw [hspec] at hfirst
          cases hfirst with
          | leftOpen he => exact Follows.leftOpen he
      | some p =>
          rw [hspec] at hfirst
          cases hfirst

/-- The steps that are made for the items of a list, one after the other. -/
theorem refines_mapM {f : β -> EStateM ε σ α} {g : β -> StateT τ Option α}
    (hf : forall b, Refines R E (f b) (g b)) (items : List β) :
    Refines R E (items.mapM f) (items.mapM g) := by
  induction items with
  | nil =>
      rw [List.mapM_nil, List.mapM_nil]
      exact refines_pure []
  | cons b rest ih =>
      rw [List.mapM_cons, List.mapM_cons]
      apply refines_bind (hf b)
      intro a
      exact refines_bind ih fun later => refines_pure (a :: later)

end Refinement
end Foundation
end XdsService
