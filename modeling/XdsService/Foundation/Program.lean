import Mathlib.Order.Defs.Unbundled

/-!
# Programs with a state and an abrupt exit

A program that reads and writes a state and may leave abruptly is a value of
`EStateM ε σ α`.  This module collects the general facts about such
programs that do not depend on what the state is: the state a program leaves
behind, relations every run of a program respects, and loops over a list.
-/

namespace XdsService
namespace Foundation
namespace Program

variable {ε σ α β : Type}

/-- The state a program leaves behind, whichever way it ends. -/
def finalState : EStateM.Result ε σ α -> σ
  | EStateM.Result.ok _ s => s
  | EStateM.Result.error _ s => s

@[simp] theorem finalState_ok (a : α) (s : σ) :
    finalState (EStateM.Result.ok a s : EStateM.Result ε σ α) = s := rfl

@[simp] theorem finalState_error (e : ε) (s : σ) :
    finalState (EStateM.Result.error e s : EStateM.Result ε σ α) = s := rfl

/-- The program returned, with a value and a state that pass the check. -/
def returnsWith (check : α -> σ -> Bool) : EStateM.Result ε σ α -> Bool
  | EStateM.Result.ok a s => check a s
  | EStateM.Result.error _ _ => false

theorem exists_of_returnsWith {check : α -> σ -> Bool}
    {result : EStateM.Result ε σ α} (h : returnsWith check result = true) :
    exists a s, result = EStateM.Result.ok a s ∧ check a s = true := by
  cases result with
  | ok a s => exact ⟨a, s, rfl, h⟩
  | error e s => cases h

/-!
## Reading a sequence of two programs
-/

theorem run_bind_of_ok {m : EStateM ε σ α} {f : α -> EStateM ε σ β}
    {s s' : σ} {a : α} (h : m.run s = .ok a s') :
    (m >>= f).run s = (f a).run s' := by
  rw [EStateM.run_bind, h]

theorem run_bind_of_error {m : EStateM ε σ α} {f : α -> EStateM ε σ β}
    {s s' : σ} {e : ε} (h : m.run s = .error e s') :
    (m >>= f).run s = .error e s' := by
  rw [EStateM.run_bind, h]

theorem run_bind_eq_ok {m : EStateM ε σ α} {f : α -> EStateM ε σ β}
    {s s' : σ} {b : β} (h : (m >>= f).run s = .ok b s') :
    exists a s1, m.run s = .ok a s1 ∧ (f a).run s1 = .ok b s' := by
  rw [EStateM.run_bind] at h
  cases hm : m.run s with
  | ok a s1 =>
      rw [hm] at h
      exact ⟨a, s1, rfl, h⟩
  | error e s1 =>
      rw [hm] at h
      cases h

theorem finalState_bind_pure (m : EStateM ε σ α) (f : α -> β) (s : σ) :
    finalState ((m >>= fun a => pure (f a)).run s) = finalState (m.run s) := by
  cases hrun : m.run s with
  | ok a s1 =>
      rw [run_bind_of_ok hrun]
      rfl
  | error e s1 =>
      rw [run_bind_of_error hrun]
      rfl

/-!
## Exits that a program does not take
-/

/-- Started in the state `s`, the program does not leave by the exit `e`. -/
def Avoids (e : ε) (m : EStateM ε σ α) (s : σ) : Prop :=
  forall s', m.run s ≠ .error e s'

theorem avoids_of_ok {e : ε} {m : EStateM ε σ α} {s s' : σ} {a : α}
    (h : m.run s = .ok a s') : Avoids e m s := by
  intro s1 herror
  rw [h] at herror
  cases herror

theorem avoids_congr {e : ε} {m m' : EStateM ε σ α} {s s' : σ}
    (h : m.run s = m'.run s') : Avoids e m s <-> Avoids e m' s' := by
  unfold Avoids
  rw [h]

theorem avoids_iff_of_error {e e' : ε} {m : EStateM ε σ α} {s s' : σ}
    (h : m.run s = .error e' s') : Avoids e m s <-> e' ≠ e := by
  unfold Avoids
  rw [h]
  constructor
  · rintro havoids rfl
    exact havoids s' rfl
  · intro hne s1 herror
    cases herror
    exact hne rfl

theorem avoids_bind_iff {e : ε} {m : EStateM ε σ α} {f : α -> EStateM ε σ β}
    {s : σ} :
    Avoids e (m >>= f) s <->
      Avoids e m s ∧ forall a s1, m.run s = .ok a s1 -> Avoids e (f a) s1 := by
  cases hrun : m.run s with
  | ok a s1 =>
      have hfirst : Avoids e m s := avoids_of_ok hrun
      unfold Avoids at *
      rw [run_bind_of_ok hrun]
      constructor
      · intro h
        constructor
        · exact hfirst
        · intro b s2 hok
          cases hok
          exact h
      · intro h
        exact h.right a s1 rfl
  | error e' s1 =>
      have hbind : (m >>= f).run s = .error e' s1 := run_bind_of_error hrun
      rw [avoids_iff_of_error hrun, avoids_iff_of_error hbind]
      constructor
      · intro hne
        constructor
        · exact hne
        · intro a s2 hok
          cases hok
      · intro h
        exact h.left

/-!
## Relations that every run respects

`Moves R E m` says that the program only ever moves the state along `R`, also
when it leaves abruptly, and that it only leaves by exits in `E`.  For a
preorder `R` the programs with this property are closed under sequencing,
branching and loops.
-/

structure Moves (R : σ -> σ -> Prop) (E : ε -> Prop)
    (m : EStateM ε σ α) : Prop where
  along : forall s, R s (finalState (m.run s))
  exits : forall {s e s'}, m.run s = .error e s' -> E e

variable {R : σ -> σ -> Prop} {E : ε -> Prop}

theorem Moves.ok {m : EStateM ε σ α} (h : Moves R E m) {s s' : σ} {a : α}
    (hrun : m.run s = .ok a s') : R s s' := by
  have hs := h.along s
  rw [hrun] at hs
  exact hs

theorem Moves.error {m : EStateM ε σ α} (h : Moves R E m) {s s' : σ} {e : ε}
    (hrun : m.run s = .error e s') : R s s' := by
  have hs := h.along s
  rw [hrun] at hs
  exact hs

theorem Moves.weaken {m : EStateM ε σ α} (h : Moves R E m)
    {R' : σ -> σ -> Prop} {E' : ε -> Prop}
    (hR : forall {s s'}, R s s' -> R' s s') (hE : forall {e}, E e -> E' e) :
    Moves R' E' m where
  along := fun s => hR (h.along s)
  exits := fun hrun => hE (h.exits hrun)

theorem moves_pure [Std.Refl R] (a : α) :
    Moves R E (pure a : EStateM ε σ α) where
  along := fun s => Std.Refl.refl s
  exits := fun hrun => by cases hrun

theorem moves_throw [Std.Refl R] {e : ε} (he : E e) :
    Moves R E (throw e : EStateM ε σ α) where
  along := fun s => Std.Refl.refl s
  exits := fun hrun => by
    cases hrun
    exact he

theorem moves_bind [IsTrans σ R] {m : EStateM ε σ α}
    {f : α -> EStateM ε σ β}
    (hm : Moves R E m) (hf : forall a, Moves R E (f a)) :
    Moves R E (m >>= f) := by
  constructor
  · intro s
    cases hrun : m.run s with
    | ok a s1 =>
        rw [run_bind_of_ok hrun]
        exact IsTrans.trans _ _ _ (hm.ok hrun) ((hf a).along s1)
    | error e s1 =>
        rw [run_bind_of_error hrun]
        exact hm.error hrun
  · intro s e s' hbind
    cases hrun : m.run s with
    | ok a s1 =>
        rw [run_bind_of_ok hrun] at hbind
        exact (hf a).exits hbind
    | error e1 s1 =>
        rw [run_bind_of_error hrun] at hbind
        cases hbind
        exact hm.exits hrun

theorem moves_get_bind {f : σ -> EStateM ε σ β}
    (halong : forall s, R s (finalState ((f s).run s)))
    (hexits : forall s e s', (f s).run s = .error e s' -> E e) :
    Moves R E (get >>= f) where
  along := halong
  exits := fun hrun => hexits _ _ _ hrun

theorem moves_ite {c : Prop} [Decidable c] {m m' : EStateM ε σ α}
    (hm : Moves R E m) (hm' : Moves R E m') :
    Moves R E (if c then m else m') := by
  split
  · exact hm
  · exact hm'

theorem moves_foldlM [Std.Refl R] [IsTrans σ R]
    {step : β -> α -> EStateM ε σ β}
    (hstep : forall b a, Moves R E (step b a)) (items : List α) (b : β) :
    Moves R E (items.foldlM step b) := by
  induction items generalizing b with
  | nil =>
      exact moves_pure b
  | cons a rest ih =>
      rw [List.foldlM_cons]
      exact moves_bind (hstep b a) ih

end Program
end Foundation
end XdsService
