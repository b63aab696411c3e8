import XdsService.Supervisor.Protocol

/-!
# Starts that nobody refuses

Where the supervisor accepts every add and the allocator grants every block, a
plan without a crash is carried out to its end.  What the request comes to is
then read off the plan.
-/

namespace XdsService
namespace Supervisor

open Foundation
open Program

variable {lib : Libs} {env : Env} {apiname : Option String}
variable {a : TraceArgs} {level : Option String}
variable {daemons : List Daemon} {w w1 w' : World} {rc : Int}

/-!
## Plans
-/

/-- A plan is carried out, or stops where it takes a length of no array. -/
theorem runPlan_cases (hadds : AcceptsAdds env)
    (halloc : AllocationsSucceed env) (steps : List PlanStep) (l : Locals)
    (w : World) :
    (PlanStep.crash ∉ steps ∧
        exists l' w', (runPlan env level steps l).run w = .ok l' w') ∨
      (PlanStep.crash ∈ steps ∧
        exists w', (runPlan env level steps l).run w =
          .error (Exit.fault Fault.notArray) w') := by
  induction steps generalizing l w with
  | nil => exact Or.inl ⟨by simp, l, w, rfl⟩
  | cons step rest ih =>
      cases step with
      | crash => exact Or.inr ⟨by simp, w, rfl⟩
      | visit d update =>
          have hadd : 0 ≤ (addReply env level w.log d.pid).rc :=
            hadds _ _ _ _
          have hupdate := updateSucceeds_of_allocationsSucceed halloc update
            (w.afterTrace env level d.pid)
          rw [run_runPlan_visit_of_accepted hadd hupdate]
          simpa using ih ⟨l.nbTracedDaemons + 1, l.result ++ [d.pid]⟩
            (w.afterVisit env level update d.pid)

theorem addedPids_of_isDiscovery {events : List Event}
    (h : forall e, e ∈ events -> e.isDiscovery = true) :
    addedPids events = [] := by
  apply List.filterMap_eq_nil_iff.mpr
  intro e he
  have hdiscovery := h e he
  cases e with
  | service call reply =>
      cases call <;> first | rfl | cases hdiscovery
  | _ => rfl

theorem addedPids_of_isAnswer {answer : Event}
    (h : answer.isAnswer = true) : addedPids [answer] = [] := by
  cases answer <;> first | rfl | cases h

theorem answeredPids_of_not_isAnswer {events : List Event}
    (h : forall e, e ∈ events -> e.isAnswer = false) :
    answeredPids events = [] := by
  apply List.flatMap_eq_nil_iff.mpr
  intro e he
  have hanswer := h e he
  cases e <;> first | rfl | cases hanswer

/-!
## Requests
-/

/-- What a start comes to that searched `daemons` and was not refused. -/
structure AcceptedStart (lib : Libs) (a : TraceArgs) (daemons : List Daemon)
    (w : World) (rc : Int) (w' : World) : Prop where
  traced : traced w'.log =
    traced w.log ∪ (visitedPids (plan lib a daemons)).toFinset
  added : addedPids (w.eventsSince w') = visitedPids (plan lib a daemons)
  answered : answeredPids (w.eventsSince w') = visitedPids (plan lib a daemons)
  failed : visitedPids (plan lib a daemons) = [] -> rc = errorCode ∧ w'.Idle
  started : visitedPids (plan lib a daemons) ≠ [] ->
    rc = 0 ∧
      w'.RecordIs (recordAfterPlan (plan lib a daemons) (requestedPids lib a))

theorem log_of_planDone {l : Locals} {w2 : World} {answer : Event}
    (hsearch : Searching lib a w w1)
    (hdone : PlanDone (plan lib a daemons) ⟨0, []⟩ w1 l w2)
    (hanswer : answer.isAnswer = true) :
    traced (w2.log ++ [answer]) =
        traced w.log ∪ (visitedPids (plan lib a daemons)).toFinset ∧
      exists events, w2.log ++ [answer] = w.log ++ events ∧
        addedPids events = visitedPids (plan lib a daemons) ∧
        answeredPids events = answeredPids [answer] := by
  rcases hsearch.log with ⟨found, hfound, hdiscovery⟩
  rcases hdone.log with ⟨tracing, hlog, htracing, hadded⟩
  constructor
  · have hentry : tracedEntry answer = none := by
      cases answer <;> first | rfl | cases hanswer
    rw [traced_append_of_none hentry, hdone.traced, hsearch.traced_eq]
  refine ⟨found ++ (tracing ++ [answer]), ?_, ?_, ?_⟩
  · rw [hlog, hfound, List.append_assoc, List.append_assoc]
  · rw [addedPids_append, addedPids_append, addedPids_of_isAnswer hanswer,
      hadded, addedPids_of_isDiscovery hdiscovery, List.append_nil,
      List.nil_append]
  · rw [answeredPids_append, answeredPids_append,
      answeredPids_of_not_isAnswer
        fun e he => isAnswer_of_isDiscovery (hdiscovery e he),
      answeredPids_of_not_isAnswer
        fun e he => isAnswer_of_isTracing (htracing e he),
      List.nil_append, List.nil_append]

theorem acceptedStart_of_planDone {l : Locals} {w2 : World}
    (hsearch : Searching lib a w w1)
    (hdone : PlanDone (plan lib a daemons) ⟨0, []⟩ w1 l w2)
    (hfinish : finishStart daemons (.ok l w2) = .ok rc w') :
    AcceptedStart lib a daemons w rc w' := by
  have hl := hdone.locals
  simp only [Nat.zero_add, List.nil_append] at hl
  subst hl
  by_cases hnone : visitedPids (plan lib a daemons) = []
  · simp only [finishStart, hnone, List.length_nil, if_true] at hfinish
    cases hfinish
    have hanswer : (Event.fail "failed" (noMatchInfo daemons)).isAnswer =
        true := rfl
    rcases log_of_planDone hsearch hdone hanswer with
      ⟨htraced, events, hlog, hadded, hanswered⟩
    refine ⟨htraced, ?_, ?_, ?_, ?_⟩
    · rw [World.eventsSince_of_log hlog, hadded]
    · rw [World.eventsSince_of_log hlog, hanswered, hnone]
      rfl
    · intro _
      exact ⟨rfl, World.clearRecord_idle _⟩
    · intro h
      exact absurd hnone h
  · have hlen : ¬ (visitedPids (plan lib a daemons)).length = 0 :=
      fun h => hnone (List.length_eq_zero_iff.mp h)
    simp only [finishStart, hlen, if_false] at hfinish
    cases hfinish
    have hanswer : (Event.success
        (Payload.pids (visitedPids (plan lib a daemons)))
        (some "Trace successfully started")).isAnswer = true := rfl
    rcases log_of_planDone hsearch hdone hanswer with
      ⟨htraced, events, hlog, hadded, hanswered⟩
    refine ⟨htraced, ?_, ?_, ?_, ?_⟩
    · rw [World.eventsSince_of_log hlog, hadded]
    · rw [World.eventsSince_of_log hlog, hanswered]
      exact List.append_nil _
    · intro h
      exact absurd h hnone
    · intro _
      exact ⟨rfl, (hdone.recordIs _ hsearch.recordIs).emit _⟩

/-- A successful start carried its plan out, whatever else was refused before. -/
theorem acceptedStart_of_success (hset : ¬ a.Unset) (hidle : w.Idle)
    (hlists : ListsDaemons lib env apiname a w daemons w1)
    (hrun : (traceStartArgs lib env apiname a).run w = .ok 0 w') :
    AcceptedStart lib a daemons w 0 w' := by
  rw [run_traceStartArgs_of_listsDaemons hset hidle hlists] at hrun
  cases hplan : (runPlan env a.level (plan lib a daemons) ⟨0, []⟩).run w1 with
  | ok l w2 =>
      rw [hplan] at hrun
      exact acceptedStart_of_planDone (listsDaemons_searching hidle hlists)
        (planDone_of_run_eq_ok hplan) hrun
  | error e w2 =>
      rw [hplan] at hrun
      cases e <;> cases hrun

theorem listsDaemons_of_success (hset : ¬ a.Unset) (hidle : w.Idle)
    (hrun : (traceStartArgs lib env apiname a).run w = .ok 0 w') :
    exists daemons w1, ListsDaemons lib env apiname a w daemons w1 := by
  generalize hrc : (0 : Int) = rc at hrun
  cases startOutcome_of_idle hset hidle hrun with
  | noMemory e _ _ _ => exact absurd hrc.symm errorCode_ne_zero
  | noMatch hlists _ _ => exact ⟨_, _, hlists⟩
  | started hlists _ _ => exact ⟨_, _, hlists⟩
  | refused hlists _ => exact ⟨_, _, hlists⟩

/-- Where nothing is refused, the request returns unless its plan crashes. -/
theorem acceptedStart_cases (hadds : AcceptsAdds env)
    (halloc : AllocationsSucceed env) (hset : ¬ a.Unset) (hidle : w.Idle)
    (hlists : ListsDaemons lib env apiname a w daemons w1) :
    (PlanStep.crash ∉ plan lib a daemons ∧
        exists rc w', (traceStartArgs lib env apiname a).run w = .ok rc w' ∧
          AcceptedStart lib a daemons w rc w') ∨
      (PlanStep.crash ∈ plan lib a daemons ∧
        exists f w', (traceStartArgs lib env apiname a).run w =
          .error (Exit.fault f) w') := by
  have hsearch := listsDaemons_searching hidle hlists
  rw [run_traceStartArgs_of_listsDaemons hset hidle hlists]
  rcases runPlan_cases hadds halloc (plan lib a daemons) ⟨0, []⟩ w1 with
    ⟨hcrash, l, w2, hplan⟩ | ⟨hcrash, w2, hplan⟩
  · left
    have hdone := planDone_of_run_eq_ok hplan
    rw [hplan]
    by_cases hnb : l.nbTracedDaemons = 0
    · exact ⟨hcrash, _, _, if_pos hnb,
        acceptedStart_of_planDone hsearch hdone (if_pos hnb)⟩
    · exact ⟨hcrash, _, _, if_neg hnb,
        acceptedStart_of_planDone hsearch hdone (if_neg hnb)⟩
  · right
    rw [hplan]
    exact ⟨hcrash, _, _, rfl⟩

theorem acceptedStart_of_run (hadds : AcceptsAdds env)
    (halloc : AllocationsSucceed env) (hset : ¬ a.Unset) (hidle : w.Idle)
    (hlists : ListsDaemons lib env apiname a w daemons w1)
    (hrun : (traceStartArgs lib env apiname a).run w = .ok rc w') :
    PlanStep.crash ∉ plan lib a daemons ∧
      AcceptedStart lib a daemons w rc w' := by
  rcases acceptedStart_cases hadds halloc hset hidle hlists with
    ⟨hcrash, rc1, w2, hrun', haccepted⟩ | ⟨_, f, w2, hrun'⟩
  · rw [hrun'] at hrun
    cases hrun
    exact ⟨hcrash, haccepted⟩
  · rw [hrun'] at hrun
    cases hrun

theorem listsDaemons_unique {daemons' : List Daemon} {w2 : World}
    (h : ListsDaemons lib env apiname a w daemons w1)
    (h' : ListsDaemons lib env apiname a w daemons' w2) :
    daemons = daemons' ∧ w1 = w2 := by
  rcases h with ⟨found, hrun, rfl⟩
  rcases h' with ⟨found', hrun', rfl⟩
  rw [hrun] at hrun'
  cases hrun'
  exact ⟨rfl, rfl⟩

theorem failed_of_not_listsDaemons (hset : ¬ a.Unset) (hidle : w.Idle)
    (hnone : forall daemons w1, ¬ ListsDaemons lib env apiname a w daemons w1)
    (hrun : (traceStartArgs lib env apiname a).run w = .ok rc w') :
    w'.Idle ∧ traced w'.log = traced w.log := by
  cases startOutcome_of_idle hset hidle hrun with
  | noMemory e hidle' hlog he =>
      refine ⟨hidle', ?_⟩
      rw [hlog, ← List.singleton_append, ← List.append_assoc,
        traced_append_of_none rfl, traced_append_discovery]
      simpa using isDiscovery_of_isAllocation he
  | noMatch hlists _ _ => exact absurd hlists (hnone _ _)
  | started hlists _ _ => exact absurd hlists (hnone _ _)
  | refused hlists _ => exact absurd hlists (hnone _ _)

end Supervisor
end XdsService
