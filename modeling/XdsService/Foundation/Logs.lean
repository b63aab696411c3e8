import Mathlib.Data.List.Basic
import Mathlib.Data.List.Induction

/-!
# Rules for the entries of a log

A rule tells which entries may stand behind a log.  A log obeys the rule if
every entry may stand behind those before it, so that it obeys the rule at each
moment of its growth.
-/

namespace XdsService
namespace Foundation
namespace Logs

variable {alpha : Type} {rule : List alpha -> alpha -> Prop}
variable {log : List alpha} {entry : alpha}

/-- Every entry obeys the rule, given the entries before it. -/
def Obeys (rule : List alpha -> alpha -> Prop) (log : List alpha) : Prop :=
  forall earlier entry later, log = earlier ++ entry :: later ->
    rule earlier entry

theorem obeys_nil : Obeys rule [] := by
  intro earlier entry later hlog
  simp at hlog

theorem obeys_snoc_iff :
    Obeys rule (log ++ [entry]) <-> Obeys rule log ∧ rule log entry := by
  constructor
  · intro h
    constructor
    · intro earlier other later hlog
      apply h earlier other (later ++ [entry])
      rw [hlog]
      simp
    · exact h log entry [] rfl
  · rintro ⟨hlog, hentry⟩ earlier other later hcut
    rcases List.eq_nil_or_concat later with rfl | ⟨front, last, rfl⟩
    · have hpair := List.append_inj' hcut rfl
      rw [← hpair.left, ← List.singleton_injective hpair.right]
      exact hentry
    · have hcut' : log ++ [entry] = (earlier ++ other :: front) ++ [last] := by
        simpa using hcut
      exact hlog earlier other front (List.append_inj' hcut' rfl).left

theorem Obeys.snoc (h : Obeys rule log) (hentry : rule log entry) :
    Obeys rule (log ++ [entry]) :=
  obeys_snoc_iff.mpr ⟨h, hentry⟩

theorem Obeys.upto {front : List alpha} (h : Obeys rule log)
    (hfront : front <+: log) : Obeys rule front := by
  rcases hfront with ⟨rest, rfl⟩
  intro earlier entry later hcut
  apply h earlier entry (later ++ rest)
  rw [hcut]
  simp

/-- What the empty log has and obedient entries keep, an obedient log has. -/
theorem Obeys.induct {P : List alpha -> Prop} (h : Obeys rule log)
    (hnil : P [])
    (hsnoc : forall before entry, rule before entry -> P before ->
      P (before ++ [entry])) : P log := by
  induction log using List.reverseRecOn with
  | nil => exact hnil
  | append_singleton log entry ih =>
      rcases obeys_snoc_iff.mp h with ⟨hlog, hentry⟩
      exact hsnoc log entry hentry (ih hlog)

end Logs
end Foundation
end XdsService
