import Mathlib.Data.List.TakeWhile
import XdsService.Supervisor.Stop

/-!
# Which daemons a plan visits

The criterion is decided again for each daemon: the pid first, then the array of
pids where one was given, and else the socket name.  The daemons in front of the
first one with the pid asked for are treated by the other criteria, and nothing
behind it is looked at.
-/

namespace XdsService
namespace Supervisor

open Foundation

variable {lib : Libs} {a : TraceArgs} {d : Daemon} {daemons : List Daemon}

/-!
## Criteria
-/

def TraceArgs.IsTarget (a : TraceArgs) (d : Daemon) : Prop :=
  a.pid ≠ -1 ∧ a.pid = d.pid

instance (a : TraceArgs) (d : Daemon) : Decidable (a.IsTarget d) := by
  unfold TraceArgs.IsTarget
  infer_instance

/-- Some element of a socket list contains the socket name. -/
def scanMatches (lib : Libs) (ws : String) (sockets : Json) : Bool :=
  match sockets.items? with
  | none => false
  | some items => items.any (socketMatches lib ws)

/-- A daemon that does not have the pid asked for is traced all the same. -/
def selects (lib : Libs) (a : TraceArgs) (d : Daemon) : Bool :=
  if a.pids.isNull = false then
    decide (d.pid ∈ requestedPids lib a)
  else
    scanMatches lib a.ws d.wsServers || scanMatches lib a.ws d.wsClients

/-- The daemons in front of the first one with the pid asked for. -/
def inFront (a : TraceArgs) (daemons : List Daemon) : List Daemon :=
  daemons.takeWhile fun d => decide (¬ a.IsTarget d)

def Hits (a : TraceArgs) (daemons : List Daemon) : Prop :=
  exists d, d ∈ daemons ∧ a.IsTarget d

theorem requestedPids_of_isNull (h : a.pids.isNull = true) :
    requestedPids lib a = [] := by
  unfold requestedPids
  cases hpids : a.pids with
  | null => rfl
  | _ => simp [hpids, Json.isNull] at h

/-!
## The visits of a plan
-/

theorem visitedPids_append (first second : List PlanStep) :
    visitedPids (first ++ second) =
      visitedPids first ++ visitedPids second := by
  induction first with
  | nil => rfl
  | cons step rest ih =>
      cases step with
      | crash => simpa [visitedPids] using ih
      | visit d update => simp [visitedPids, ih]

theorem recordAfterPlan_append (first second : List PlanStep)
    (ps : List Int) :
    recordAfterPlan (first ++ second) ps =
      recordAfterPlan second (recordAfterPlan first ps) := by
  induction first generalizing ps with
  | nil => rfl
  | cons step rest ih =>
      cases step with
      | crash => exact ih ps
      | visit d update => exact ih _

theorem visitedPids_scanPlan (ws : String) (sockets : Json) :
    visitedPids (scanPlan lib ws d sockets) =
      if scanMatches lib ws sockets then [d.pid] else [] := by
  unfold scanPlan scanMatches
  cases sockets.items? with
  | none => rfl
  | some items =>
      by_cases h : items.any (socketMatches lib ws) = true
      · simp [h, visitedPids]
      · simp [h, visitedPids]

theorem visitedPids_wsPlan :
    visitedPids (wsPlan lib a d) =
      (if scanMatches lib a.ws d.wsServers then [d.pid] else []) ++
        (if scanMatches lib a.ws d.wsClients then [d.pid] else []) := by
  unfold wsPlan
  rw [visitedPids_append, visitedPids_scanPlan, visitedPids_scanPlan]

theorem visitedPids_keeps (d : Daemon) (ps : List Int) :
    visitedPids (ps.map fun _ => PlanStep.visit d RecordUpdate.keep) =
      ps.map fun _ => d.pid := by
  induction ps with
  | nil => rfl
  | cons p rest ih =>
      show d.pid :: visitedPids _ = d.pid :: _
      rw [ih]

theorem mem_visitedPids_otherPlan {p : Int} :
    p ∈ visitedPids (otherPlan lib a d) <->
      p = d.pid ∧ selects lib a d = true := by
  unfold otherPlan selects
  by_cases hpids : a.pids.isNull = false
  · simp only [hpids, if_true, pidsPlan, visitedPids_keeps, List.mem_map,
      List.mem_filter, decide_eq_true_iff]
    constructor
    · intro h
      rcases h with ⟨x, ⟨hx, hxd⟩, hp⟩
      exact ⟨hp.symm, hxd ▸ hx⟩
    · intro h
      exact ⟨d.pid, ⟨h.right, rfl⟩, h.left.symm⟩
  · rw [if_neg hpids, if_neg hpids, visitedPids_wsPlan]
    by_cases hs : scanMatches lib a.ws d.wsServers = true <;>
      by_cases hc : scanMatches lib a.ws d.wsClients = true <;>
      simp [hs, hc]

theorem plan_cons_of_isTarget (h : a.IsTarget d) (rest : List Daemon) :
    plan lib a (d :: rest) = [PlanStep.visit d RecordUpdate.overwrite] :=
  if_pos h

theorem plan_cons_of_not_isTarget (h : ¬ a.IsTarget d)
    (rest : List Daemon) :
    plan lib a (d :: rest) = otherPlan lib a d ++ plan lib a rest :=
  if_neg h

theorem inFront_cons_of_isTarget (h : a.IsTarget d) (rest : List Daemon) :
    inFront a (d :: rest) = [] := by
  simp [inFront, h]

theorem inFront_cons_of_not_isTarget (h : ¬ a.IsTarget d)
    (rest : List Daemon) :
    inFront a (d :: rest) = d :: inFront a rest := by
  simp [inFront, h]

theorem hits_cons_of_not_isTarget (h : ¬ a.IsTarget d)
    (rest : List Daemon) :
    Hits a (d :: rest) <-> Hits a rest := by
  unfold Hits
  simp [h]

theorem inFront_of_not_hits (h : ¬ Hits a daemons) :
    inFront a daemons = daemons := by
  unfold inFront
  rw [List.takeWhile_eq_self_iff]
  intro d hd
  have htarget : ¬ a.IsTarget d := fun htarget => h ⟨d, hd, htarget⟩
  simpa using htarget

theorem not_isTarget_of_mem_inFront (h : d ∈ inFront a daemons) :
    ¬ a.IsTarget d := by
  simpa using List.mem_takeWhile_imp h

theorem pid_ne_of_mem_inFront (hhits : Hits a daemons)
    (h : d ∈ inFront a daemons) : d.pid ≠ a.pid := by
  rcases hhits with ⟨target, _, htarget⟩
  intro heq
  exact not_isTarget_of_mem_inFront h ⟨htarget.left, heq.symm⟩

theorem mem_visitedPids_plan {p : Int} :
    p ∈ visitedPids (plan lib a daemons) <->
      (Hits a daemons ∧ p = a.pid) ∨
        exists d, d ∈ inFront a daemons ∧ p = d.pid ∧
          selects lib a d = true := by
  induction daemons with
  | nil => simp [plan, visitedPids, Hits, inFront]
  | cons d rest ih =>
      by_cases h : a.IsTarget d
      · rw [plan_cons_of_isTarget h, inFront_cons_of_isTarget h]
        have hhits : Hits a (d :: rest) := ⟨d, by simp, h⟩
        simp [visitedPids, hhits, h.right]
      · rw [plan_cons_of_not_isTarget h, inFront_cons_of_not_isTarget h,
          visitedPids_append, List.mem_append, mem_visitedPids_otherPlan, ih,
          hits_cons_of_not_isTarget h]
        simp only [List.mem_cons, exists_eq_or_imp]
        tauto

theorem visitedPids_otherPlan_eq_nil (h : selects lib a d = false) :
    visitedPids (otherPlan lib a d) = [] := by
  apply List.eq_nil_iff_forall_not_mem.mpr
  intro p hp
  rw [mem_visitedPids_otherPlan, h] at hp
  cases hp.right

theorem visitedPids_plan_of_hits (hhits : Hits a daemons)
    (h : forall d, d ∈ inFront a daemons -> selects lib a d = false) :
    visitedPids (plan lib a daemons) = [a.pid] := by
  induction daemons with
  | nil =>
      rcases hhits with ⟨d, hd, _⟩
      cases hd
  | cons d rest ih =>
      by_cases htarget : a.IsTarget d
      · rw [plan_cons_of_isTarget htarget, htarget.right]
        rfl
      · rw [inFront_cons_of_not_isTarget htarget] at h
        rw [plan_cons_of_not_isTarget htarget, visitedPids_append,
          visitedPids_otherPlan_eq_nil (h d (by simp)), List.nil_append]
        apply ih ((hits_cons_of_not_isTarget htarget rest).mp hhits)
        exact fun d' hd' => h d' (by simp [hd'])

theorem visitedPids_plan_of_not_hits (hhits : ¬ Hits a daemons)
    (h : forall d, d ∈ daemons -> selects lib a d = false) :
    visitedPids (plan lib a daemons) = [] := by
  apply List.eq_nil_iff_forall_not_mem.mpr
  intro p hp
  rcases mem_visitedPids_plan.mp hp with hhit | ⟨d, hd, _, hselects⟩
  · exact hhits hhit.left
  · rw [inFront_of_not_hits hhits] at hd
    rw [h d hd] at hselects
    cases hselects

/-!
## The record of a plan
-/

theorem recordAfterPlan_keeps (d : Daemon) (qs ps : List Int) :
    recordAfterPlan
        (qs.map fun _ => PlanStep.visit d RecordUpdate.keep) ps = ps := by
  induction qs with
  | nil => rfl
  | cons q rest ih => exact ih

theorem recordAfterPlan_scanPlan (ws : String) (sockets : Json)
    (ps : List Int) :
    recordAfterPlan (scanPlan lib ws d sockets) ps =
      ps ++ visitedPids (scanPlan lib ws d sockets) := by
  rw [visitedPids_scanPlan]
  unfold scanPlan scanMatches
  cases sockets.items? with
  | none => simp [recordAfterPlan]
  | some items =>
      by_cases h : items.any (socketMatches lib ws) = true
      · simp [h, recordAfterPlan, recordAfter]
      · simp [h, recordAfterPlan]

theorem recordAfterPlan_of_hits (h : Hits a daemons) (ps : List Int) :
    recordAfterPlan (plan lib a daemons) ps = [a.pid] := by
  induction daemons generalizing ps with
  | nil =>
      rcases h with ⟨d, hd, _⟩
      cases hd
  | cons d rest ih =>
      by_cases htarget : a.IsTarget d
      · rw [plan_cons_of_isTarget htarget, htarget.right]
        rfl
      · rw [plan_cons_of_not_isTarget htarget, recordAfterPlan_append]
        exact ih ((hits_cons_of_not_isTarget htarget rest).mp h) _

theorem recordAfterPlan_of_pids (h : ¬ Hits a daemons)
    (hpids : a.pids.isNull = false) (ps : List Int) :
    recordAfterPlan (plan lib a daemons) ps = ps := by
  induction daemons with
  | nil => rfl
  | cons d rest ih =>
      have htarget : ¬ a.IsTarget d := fun hd => h ⟨d, by simp, hd⟩
      have hother : otherPlan lib a d = pidsPlan lib a d := if_pos hpids
      rw [plan_cons_of_not_isTarget htarget, recordAfterPlan_append, hother,
        pidsPlan, recordAfterPlan_keeps]
      exact ih fun hrest =>
        h ((hits_cons_of_not_isTarget htarget rest).mpr hrest)

theorem recordAfterPlan_of_ws (h : ¬ Hits a daemons)
    (hpids : a.pids.isNull = true) (ps : List Int) :
    recordAfterPlan (plan lib a daemons) ps =
      ps ++ visitedPids (plan lib a daemons) := by
  induction daemons generalizing ps with
  | nil => simp [plan, recordAfterPlan, visitedPids]
  | cons d rest ih =>
      have htarget : ¬ a.IsTarget d := fun hd => h ⟨d, by simp, hd⟩
      have hother : otherPlan lib a d = wsPlan lib a d :=
        if_neg (by simp [hpids])
      have hrest : ¬ Hits a rest := fun hrest =>
        h ((hits_cons_of_not_isTarget htarget rest).mpr hrest)
      rw [plan_cons_of_not_isTarget htarget, recordAfterPlan_append, hother,
        ih hrest, wsPlan, recordAfterPlan_append, recordAfterPlan_scanPlan,
        recordAfterPlan_scanPlan, visitedPids_append, visitedPids_append]
      simp

theorem recordAfterPlan_requestedPids (lib : Libs) (a : TraceArgs)
    (daemons : List Daemon) :
    (Hits a daemons ∧
        recordAfterPlan (plan lib a daemons) (requestedPids lib a) =
          [a.pid]) ∨
      (¬ Hits a daemons ∧ a.pids.isNull = false ∧
        recordAfterPlan (plan lib a daemons) (requestedPids lib a) =
          requestedPids lib a) ∨
      (¬ Hits a daemons ∧ a.pids.isNull = true ∧
        recordAfterPlan (plan lib a daemons) (requestedPids lib a) =
          visitedPids (plan lib a daemons)) := by
  by_cases h : Hits a daemons
  · exact Or.inl ⟨h, recordAfterPlan_of_hits h _⟩
  · cases hpids : a.pids.isNull with
    | false =>
        exact Or.inr (Or.inl ⟨h, rfl, recordAfterPlan_of_pids h hpids _⟩)
    | true =>
        refine Or.inr (Or.inr ⟨h, rfl, ?_⟩)
        rw [recordAfterPlan_of_ws h hpids, requestedPids_of_isNull hpids]
        rfl

theorem recordAfterPlan_ne_nil
    (h : visitedPids (plan lib a daemons) ≠ []) :
    recordAfterPlan (plan lib a daemons) (requestedPids lib a) ≠ [] := by
  rcases recordAfterPlan_requestedPids lib a daemons with
    ⟨_, hrecord⟩ | ⟨hhits, hpids, hrecord⟩ | ⟨_, _, hrecord⟩
  · rw [hrecord]
    simp
  · rw [hrecord]
    rcases List.exists_mem_of_ne_nil _ h with ⟨p, hp⟩
    rcases mem_visitedPids_plan.mp hp with hhit | ⟨d, _, _, hselects⟩
    · exact absurd hhit.left hhits
    · have hmem : d.pid ∈ requestedPids lib a := by
        simpa [selects, hpids] using hselects
      exact List.ne_nil_of_mem hmem
  · rw [hrecord]
    exact h

/-!
## Plans without a crash
-/

theorem crash_mem_scanPlan_iff {sockets : Json} (ws : String) :
    PlanStep.crash ∈ scanPlan lib ws d sockets <->
      ¬ sockets.isArray = true := by
  unfold scanPlan
  cases hitems : sockets.items? with
  | none =>
      have hno : ¬ sockets.isArray = true := by
        intro harray
        rcases Json.isArray_iff_exists_items.mp harray with ⟨items, rfl⟩
        cases hitems
      simp [hno]
  | some items =>
      rw [Json.items?_eq_some_iff.mp hitems]
      by_cases h : items.any (socketMatches lib ws) = true
      · simp [h, Json.isArray]
      · simp [h, Json.isArray]

theorem crash_mem_wsPlan_iff :
    PlanStep.crash ∈ wsPlan lib a d <-> ¬ d.WellFormed := by
  unfold wsPlan
  rw [List.mem_append, crash_mem_scanPlan_iff, crash_mem_scanPlan_iff,
    ← not_and_or]
  exact not_congr ⟨fun h => ⟨h.left, h.right⟩,
    fun h => ⟨h.wsServers, h.wsClients⟩⟩

/-- The lengths of the socket lists are taken up to the pid asked for. -/
theorem crash_mem_plan_iff :
    PlanStep.crash ∈ plan lib a daemons <->
      a.pids.isNull = true ∧
        exists d, d ∈ inFront a daemons ∧ ¬ d.WellFormed := by
  induction daemons with
  | nil => simp [plan, inFront]
  | cons d rest ih =>
      by_cases htarget : a.IsTarget d
      · rw [plan_cons_of_isTarget htarget, inFront_cons_of_isTarget htarget]
        simp
      · rw [plan_cons_of_not_isTarget htarget,
          inFront_cons_of_not_isTarget htarget, List.mem_append, ih]
        unfold otherPlan
        cases hpids : a.pids.isNull with
        | false => simp [pidsPlan]
        | true => simp [crash_mem_wsPlan_iff]

/-- Where the daemons are well formed the search takes no length of NULL. -/
theorem crash_notMem_plan (h : forall d, d ∈ daemons -> d.WellFormed) :
    PlanStep.crash ∉ plan lib a daemons := by
  intro hcrash
  rcases (crash_mem_plan_iff.mp hcrash).right with ⟨d, hd, hformed⟩
  exact hformed (h d ((List.takeWhile_sublist _).subset hd))

end Supervisor
end XdsService
