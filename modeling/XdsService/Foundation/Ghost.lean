import XdsService.Foundation.Program
import XdsService.Foundation.Runs

/-!
# Auxiliary state

A program can be given a second state that it only writes.  What it does to the
first one, its value and its exits stay as they were, so that the second state
can be erased again; it tells what the first one does not show, such as who owns
a block of memory.
-/

namespace XdsService
namespace Foundation
namespace Ghost

open Program

variable {ε σ γ α β : Type}

def erase : EStateM.Result ε (σ × γ) α -> EStateM.Result ε σ α
  | .ok a s => .ok a s.1
  | .error e s => .error e s.1

def lift (m : EStateM ε σ α) : EStateM ε (σ × γ) α := fun s =>
  match m s.1 with
  | .ok a t => .ok a (t, s.2)
  | .error e t => .error e (t, s.2)

/-- A step of the auxiliary state, which may look at the first one. -/
def ghost (step : σ -> γ -> γ) : EStateM ε (σ × γ) Unit := fun s =>
  .ok () (s.1, step s.1 s.2)

/-- Without its auxiliary steps the first program is the second one. -/
def Erases (m' : EStateM ε (σ × γ) α) (m : EStateM ε σ α) : Prop :=
  forall s, erase (m'.run s) = m.run s.1

section Erases

variable {m' : EStateM ε (σ × γ) α} {m : EStateM ε σ α}

theorem run_lift (m : EStateM ε σ α) (s : σ × γ) :
    (lift m : EStateM ε (σ × γ) α).run s =
      match m.run s.1 with
      | .ok a t => .ok a (t, s.2)
      | .error e t => .error e (t, s.2) := rfl

theorem run_lift_of_ok {a : α} {s : σ × γ} {t : σ}
    (h : m.run s.1 = .ok a t) :
    (lift m : EStateM ε (σ × γ) α).run s = .ok a (t, s.2) := by
  rw [run_lift, h]

theorem run_lift_of_error {e : ε} {s : σ × γ} {t : σ}
    (h : m.run s.1 = .error e t) :
    (lift m : EStateM ε (σ × γ) α).run s = .error e (t, s.2) := by
  rw [run_lift, h]

theorem finalState_run_lift (m : EStateM ε σ α) (s : σ × γ) :
    finalState ((lift m : EStateM ε (σ × γ) α).run s) =
      (finalState (m.run s.1), s.2) := by
  cases hrun : m.run s.1 with
  | ok a t =>
      rw [run_lift_of_ok hrun]
      rfl
  | error e t =>
      rw [run_lift_of_error hrun]
      rfl

theorem run_ghost_bind (step : σ -> γ -> γ)
    (f : Unit -> EStateM ε (σ × γ) α) (s : σ × γ) :
    (ghost step >>= f).run s = (f ()).run (s.1, step s.1 s.2) := rfl

theorem erases_lift (m : EStateM ε σ α) :
    Erases (lift m : EStateM ε (σ × γ) α) m := by
  intro s
  cases hrun : m.run s.1 with
  | ok a t =>
      rw [run_lift_of_ok hrun]
      rfl
  | error e t =>
      rw [run_lift_of_error hrun]
      rfl

theorem erases_pure (a : α) :
    Erases (pure a : EStateM ε (σ × γ) α) (pure a) := fun _ => rfl

theorem Erases.of_ok (h : Erases m' m) {a : α} {s s' : σ × γ}
    (hrun : m'.run s = .ok a s') : m.run s.1 = .ok a s'.1 := by
  rw [← h s, hrun]
  rfl

theorem Erases.of_error (h : Erases m' m) {e : ε} {s s' : σ × γ}
    (hrun : m'.run s = .error e s') : m.run s.1 = .error e s'.1 := by
  rw [← h s, hrun]
  rfl

theorem Erases.exists_ok (h : Erases m' m) {a : α} {s : σ × γ} {t : σ}
    (hrun : m.run s.1 = .ok a t) :
    exists g, m'.run s = .ok a (t, g) := by
  cases hrun' : m'.run s with
  | ok b s' =>
      have hok := h.of_ok hrun'
      rw [hrun] at hok
      cases hok
      exact ⟨s'.2, rfl⟩
  | error e s' =>
      have herror := h.of_error hrun'
      rw [hrun] at herror
      cases herror

theorem run_lift_eq_ok {a : α} {s s' : σ × γ}
    (h : (lift m : EStateM ε (σ × γ) α).run s = .ok a s') :
    m.run s.1 = .ok a s'.1 ∧ s'.2 = s.2 := by
  cases hrun : m.run s.1 with
  | ok b t =>
      rw [run_lift_of_ok hrun] at h
      cases h
      exact ⟨rfl, rfl⟩
  | error e t =>
      rw [run_lift_of_error hrun] at h
      cases h

theorem erases_bind {f' : α -> EStateM ε (σ × γ) β} {f : α -> EStateM ε σ β}
    (hm : Erases m' m) (hf : forall a, Erases (f' a) (f a)) :
    Erases (m' >>= f') (m >>= f) := by
  intro s
  cases hrun : m'.run s with
  | ok a s' =>
      rw [run_bind_of_ok hrun, run_bind_of_ok (hm.of_ok hrun)]
      exact hf a s'
  | error e s' =>
      rw [run_bind_of_error hrun, run_bind_of_error (hm.of_error hrun)]
      rfl

theorem erases_ghost_bind {f' : Unit -> EStateM ε (σ × γ) α}
    (step : σ -> γ -> γ) (h : Erases (f' ()) m) :
    Erases (ghost step >>= f') m := by
  intro s
  rw [run_ghost_bind]
  exact h (s.1, step s.1 s.2)

theorem erases_bind_ghost (hm : Erases m' m) (step : α -> σ -> γ -> γ) :
    Erases (m' >>= fun a => ghost (step a) >>= fun _ => pure a) m := by
  have hbehind : forall a, Erases
      (ghost (step a) >>= fun _ => (pure a : EStateM ε (σ × γ) α))
      (pure a) :=
    fun a => erases_ghost_bind (step a) (erases_pure a)
  have hbind := erases_bind hm hbehind
  rw [bind_pure] at hbind
  exact hbind

theorem erases_ite {c : Prop} [Decidable c]
    {m1' m2' : EStateM ε (σ × γ) α} {m1 m2 : EStateM ε σ α}
    (h1 : Erases m1' m1) (h2 : Erases m2' m2) :
    Erases (if c then m1' else m2') (if c then m1 else m2) := by
  split
  · exact h1
  · exact h2

theorem erases_foldlM {step' : β -> α -> EStateM ε (σ × γ) β}
    {step : β -> α -> EStateM ε σ β}
    (hstep : forall b a, Erases (step' b a) (step b a)) (items : List α)
    (b : β) : Erases (items.foldlM step' b) (items.foldlM step b) := by
  induction items generalizing b with
  | nil => exact erases_pure b
  | cons a rest ih =>
      rw [List.foldlM_cons, List.foldlM_cons]
      exact erases_bind (hstep b a) ih

end Erases

/-!
## Relations along the whole state
-/

variable {R : σ × γ -> σ × γ -> Prop} {E : ε -> Prop}

theorem moves_lift {m : EStateM ε σ α}
    (halong : forall s : σ × γ, R s (finalState (m.run s.1), s.2))
    (hexits : forall {s e s'}, m.run s = .error e s' -> E e) :
    Moves R E (lift m) where
  along := by
    intro s
    rw [finalState_run_lift]
    exact halong s
  exits := by
    intro s e s' hrun
    exact hexits ((erases_lift m).of_error hrun)

theorem moves_ghost {step : σ -> γ -> γ}
    (halong : forall s : σ × γ, R s (s.1, step s.1 s.2)) :
    Moves R E (ghost step) where
  along := halong
  exits := by
    intro s e s' hrun
    cases hrun

/-!
## Runs
-/

section Runs

variable {action answer : Type}
variable {step' : σ × γ -> action -> answer -> σ × γ -> Prop}
variable {step : σ -> action -> answer -> σ -> Prop}

def eraseMove (m : Move (σ × γ) action answer) : Move σ action answer :=
  ⟨m.before.1, m.action, m.answer, m.after.1⟩

/-- Every run can be given an auxiliary state from the start. -/
theorem exists_run
    (hstep : forall {t a r t'}, step t a r t' ->
      forall g, exists g', step' (t, g) a r (t', g'))
    {start t : σ} {moves : List (Move σ action answer)}
    (hrun : Run step start moves t) (g : γ) :
    exists moves' g', Run step' (start, g) moves' (t, g') ∧
      moves'.map eraseMove = moves := by
  induction hrun with
  | nil => exact ⟨[], g, Run.nil, rfl⟩
  | snoc _ hlast ih =>
      rcases ih with ⟨moves', g1, hrun', hmoves⟩
      rcases hstep hlast g1 with ⟨g2, hlast'⟩
      refine ⟨_, g2, Run.snoc hrun' hlast', ?_⟩
      rw [List.map_append, hmoves]
      rfl

end Runs

end Ghost
end Foundation
end XdsService
