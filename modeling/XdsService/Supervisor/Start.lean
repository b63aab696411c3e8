import XdsService.Supervisor.Execution

/-!
# What a trace_start request does

A request that is not refused at once fills the record, collects the daemons and
carries out its plan.  The equations below put the parts of the handler together
and the outcomes are listed in `StartOutcome`.
-/

namespace XdsService
namespace Supervisor

open Foundation
open Program

variable {lib : Libs} {env : Env} {apiname : Option String}
variable {queryJ : Json} {a : TraceArgs} {q : QueryArgs}
variable {daemons : List Daemon} {w w1 : World}

/-!
## Requests that are refused at once
-/

theorem run_traceStart_of_bad_query (h : lib.unpackQuery queryJ = none)
    (w : World) :
    (traceStart lib env apiname queryJ).run w =
      .ok errorCode
        (w.emit (Event.fail "Failed" "Error processing arguments.")) := by
  unfold traceStart
  rw [h]
  rfl

theorem run_traceStart_of_query (h : lib.unpackQuery queryJ = some q)
    (w : World) :
    (traceStart lib env apiname queryJ).run w =
      (traceStartArgs lib env apiname (TraceArgs.ofQuery q)).run w := by
  unfold traceStart
  rw [h]

theorem run_traceStartArgs_of_unset (h : a.Unset) (w : World) :
    (traceStartArgs lib env apiname a).run w =
      .ok errorCode (w.emit (Event.fail "failed"
        "one of pid or pids or ws parameter must be set")) := by
  unfold traceStartArgs
  rw [if_pos h]
  rfl

theorem run_traceStartArgs_of_tracing (h : ¬ a.Unset)
    (hnum : 0 < w.tracePidsNum) :
    (traceStartArgs lib env apiname a).run w =
      .ok errorCode (w.emit (Event.fail "failed" "already tracing")) := by
  unfold traceStartArgs
  rw [if_neg h, EStateM.run_bind, EStateM.run_get]
  show (if 0 < w.tracePidsNum then _ else _ : Handler Int).run w = _
  rw [if_pos hnum]
  rfl

theorem run_traceStartArgs_of_idle (h : ¬ a.Unset)
    (hnum : w.tracePidsNum = 0) :
    (traceStartArgs lib env apiname a).run w =
      (withErrorLabel (traceStartBody lib env apiname a)).run w := by
  unfold traceStartArgs
  rw [if_neg h, EStateM.run_bind, EStateM.run_get]
  show (if 0 < w.tracePidsNum then _ else _ : Handler Int).run w = _
  rw [if_neg (by omega)]

/-- A request is refused at once, or goes on from an empty record. -/
inductive StartEntry (lib : Libs) (env : Env) (apiname : Option String)
    (queryJ : Json) (w : World) : Int -> World -> Prop where
  | refused (status info : String)
      (hnever : forall q, lib.unpackQuery queryJ = some q ->
        ¬ (TraceArgs.ofQuery q).Unset -> w.tracePidsNum ≠ 0) :
      StartEntry lib env apiname queryJ w errorCode
        (w.emit (Event.fail status info))
  | entered (q : QueryArgs) {rc : Int} {w' : World}
      (hquery : lib.unpackQuery queryJ = some q)
      (hset : ¬ (TraceArgs.ofQuery q).Unset) (hnum : w.tracePidsNum = 0)
      (hrun : (traceStartArgs lib env apiname (TraceArgs.ofQuery q)).run w =
        .ok rc w') :
      StartEntry lib env apiname queryJ w rc w'

theorem startEntry_of_run {rc : Int} {w' : World}
    (hrun : (traceStart lib env apiname queryJ).run w = .ok rc w') :
    StartEntry lib env apiname queryJ w rc w' := by
  cases hquery : lib.unpackQuery queryJ with
  | none =>
      rw [run_traceStart_of_bad_query hquery] at hrun
      cases hrun
      refine StartEntry.refused _ _ fun q hq => ?_
      rw [hquery] at hq
      cases hq
  | some q =>
      rw [run_traceStart_of_query hquery] at hrun
      by_cases hset : (TraceArgs.ofQuery q).Unset
      · rw [run_traceStartArgs_of_unset hset] at hrun
        cases hrun
        refine StartEntry.refused _ _ fun q' hq hset' => ?_
        rw [hquery] at hq
        cases hq
        exact absurd hset hset'
      · by_cases hnum : w.tracePidsNum = 0
        · exact StartEntry.entered q hquery hset hnum hrun
        · rw [run_traceStartArgs_of_tracing hset (by omega)] at hrun
          cases hrun
          exact StartEntry.refused _ _ fun _ _ _ => hnum

section ErrorLabel

variable {body : Handler Int} {w' : World}

theorem run_withErrorLabel_of_ok {rc : Int}
    (h : body.run w = .ok rc w') :
    (withErrorLabel body).run w = .ok rc w' := by
  show withErrorLabel body w = _
  unfold withErrorLabel
  rw [show body w = .ok rc w' from h]

theorem run_withErrorLabel_of_gotoError
    (h : body.run w = .error Exit.gotoError w') :
    (withErrorLabel body).run w = .ok errorCode w'.clearRecord := by
  show withErrorLabel body w = _
  unfold withErrorLabel
  rw [show body w = .error Exit.gotoError w' from h]

theorem run_withErrorLabel_of_fault {f : Fault}
    (h : body.run w = .error (Exit.fault f) w') :
    (withErrorLabel body).run w = .error (Exit.fault f) w' := by
  show withErrorLabel body w = _
  unfold withErrorLabel
  rw [show body w = .error (Exit.fault f) w' from h]

end ErrorLabel

theorem run_traceStartArgs_of_prefill_error (hset : ¬ a.Unset)
    (hnum : w.tracePidsNum = 0)
    (hprefill : (prefillRecord lib env a).run w = .error Exit.gotoError w1) :
    (traceStartArgs lib env apiname a).run w =
      .ok errorCode w1.clearRecord := by
  have hbody : (traceStartBody lib env apiname a).run w =
      .error Exit.gotoError w1 := run_bind_of_error hprefill
  rw [run_traceStartArgs_of_idle hset hnum]
  exact run_withErrorLabel_of_gotoError hbody

/-- The collection does not jump to the label: where it ends, so does all. -/
theorem run_traceStartArgs_of_collection_error {e : Exit} {w2 : World}
    (hset : ¬ a.Unset) (hnum : w.tracePidsNum = 0)
    (hprefill : (prefillRecord lib env a).run w = .ok () w1)
    (hget : (getDaemons lib env apiname).run w1 = .error e w2) :
    (traceStartArgs lib env apiname a).run w = .error e w2 := by
  rcases (quiet_getDaemons lib env apiname).exits hget with ⟨f, rfl⟩
  have hbody : (traceStartBody lib env apiname a).run w =
      .error (Exit.fault f) w2 :=
    (run_bind_of_ok hprefill).trans (run_bind_of_error hget)
  rw [run_traceStartArgs_of_idle hset hnum]
  exact run_withErrorLabel_of_fault hbody

/-!
## The world in which the search starts
-/

/-- The record holds the request's pids, and only discovery events came. -/
structure Searching (lib : Libs) (a : TraceArgs) (w w1 : World) : Prop where
  recordIs : w1.RecordIs (requestedPids lib a)
  log : exists events, w1.log = w.log ++ events ∧
    forall e, e ∈ events -> e.isDiscovery = true

theorem Searching.traced_eq (h : Searching lib a w w1) :
    traced w1.log = traced w.log := by
  rcases h.log with ⟨events, hlog, hall⟩
  rw [hlog]
  exact traced_append_discovery hall

/-- Filling the record either succeeds or answers that memory ran out. -/
theorem prefillRecord_cases (hidle : w.Idle) (lib : Libs) (env : Env)
    (a : TraceArgs) :
    (exists w1, (prefillRecord lib env a).run w = .ok () w1 ∧
        Searching lib a w w1) ∨
      (exists w1 e, (prefillRecord lib env a).run w =
          .error Exit.gotoError w1 ∧
        w1.log = w.log ++ [e, Event.fail "failed" "out of memory"] ∧
        e.isAllocation = true) := by
  cases hitems : a.pids.items? with
  | none =>
      left
      refine ⟨w, run_prefillRecord_of_none hitems w, ?_, [], by simp, by simp⟩
      have hnone : requestedPids lib a = [] := by
        simp [requestedPids, hitems]
      rw [hnone]
      exact hidle.recordIs
  | some items =>
      cases halloc : env.alloc w.log (Allocation.mallocPids items.length) with
      | true =>
          left
          refine ⟨_, run_prefillRecord_of_allocated hitems halloc, ?_, _, rfl,
            by simp [Event.isDiscovery]⟩
          have hsome : requestedPids lib a = items.map lib.getInt := by
            simp [requestedPids, hitems]
          rw [hsome]
          exact afterPrefill_recordIs w lib items
      | false =>
          right
          rcases run_prefillRecord_of_not_allocated hitems halloc with
            ⟨w1, hrun, hlog⟩
          exact ⟨w1, _, hrun, hlog, rfl⟩

theorem Searching.trans_quiet {w2 : World} (h : Searching lib a w w1)
    (hquiet : Quiet w1 w2) : Searching lib a w w2 := by
  rcases h.log with ⟨events, hlog, hall⟩
  rcases hquiet.log with ⟨events', hlog', hall'⟩
  refine ⟨hquiet.sameRecord.recordIs h.recordIs, events ++ events', ?_, ?_⟩
  · rw [hlog', hlog, List.append_assoc]
  · intro e he
    rcases List.mem_append.mp he with he | he
    · exact hall e he
    · exact hall' e he

theorem listsDaemons_searching (hidle : w.Idle)
    (h : ListsDaemons lib env apiname a w daemons w1) :
    Searching lib a w w1 := by
  rcases h with ⟨found, hrun, _⟩
  rcases run_bind_eq_ok hrun with ⟨_, w2, hprefill, hget⟩
  rcases prefillRecord_cases hidle lib env a with
    ⟨w3, hok, hsearch⟩ | ⟨w3, e, herror, _⟩
  · rw [hok] at hprefill
    cases hprefill
    exact hsearch.trans_quiet ((quiet_getDaemons lib env apiname).ok hget)
  · rw [herror] at hprefill
    cases hprefill

/-!
## The search
-/

/-- The answer when no daemon was traced. -/
def noMatchInfo (daemons : List Daemon) : String :=
  if daemons.isEmpty then "No daemon found"
  else "No daemon found match criteria"

/-- How the handler ends after the plan was carried out, or was not. -/
def finishStart (daemons : List Daemon) :
    EStateM.Result Exit World Locals -> EStateM.Result Exit World Int
  | .ok l w2 =>
      if l.nbTracedDaemons = 0 then
        .ok errorCode
          (w2.emit (Event.fail "failed" (noMatchInfo daemons))).clearRecord
      else
        .ok 0 (w2.emit (Event.success (Payload.pids l.result)
          (some "Trace successfully started")))
  | .error Exit.gotoError w2 => .ok errorCode w2.clearRecord
  | .error (Exit.fault f) w2 => .error (Exit.fault f) w2

theorem run_withErrorLabel_traceFound (hsearch : Searching lib a w w1)
    (env : Env) (daemons : List Daemon) :
    (withErrorLabel (traceFound lib env a daemons)).run w1 =
      finishStart daemons
        ((runPlan env a.level (plan lib a daemons) ⟨0, []⟩).run w1) := by
  cases daemons with
  | nil => rfl
  | cons d rest =>
      have hselect :
          (selectDaemons lib env a (d :: rest) ⟨0, []⟩).run w1 =
            (runPlan env a.level (plan lib a (d :: rest)) ⟨0, []⟩).run w1 :=
        run_selectDaemons (fun _ => hsearch.recordIs) (d :: rest) ⟨0, []⟩
      have hfound : traceFound lib env a (d :: rest) =
          traceSelected lib env a (d :: rest) := rfl
      rw [hfound]
      cases hrun : (runPlan env a.level (plan lib a (d :: rest))
          ⟨0, []⟩).run w1 with
      | error e w2 =>
          rw [hrun] at hselect
          have hbody : (traceSelected lib env a (d :: rest)).run w1 =
              .error e w2 := run_bind_of_error hselect
          cases e with
          | gotoError => exact run_withErrorLabel_of_gotoError hbody
          | fault f => exact run_withErrorLabel_of_fault hbody
      | ok l w2 =>
          rw [hrun] at hselect
          have hbody : (traceSelected lib env a (d :: rest)).run w1 = _ :=
            run_bind_of_ok hselect
          by_cases hnb : l.nbTracedDaemons = 0
          · rw [if_pos hnb] at hbody
            rw [run_withErrorLabel_of_gotoError hbody]
            simp [finishStart, hnb, noMatchInfo]
          · rw [if_neg hnb] at hbody
            rw [run_withErrorLabel_of_ok hbody]
            simp [finishStart, hnb]

theorem run_traceStartArgs_of_listsDaemons (hset : ¬ a.Unset)
    (hidle : w.Idle) (hlists : ListsDaemons lib env apiname a w daemons w1) :
    (traceStartArgs lib env apiname a).run w =
      finishStart daemons
        ((runPlan env a.level (plan lib a daemons) ⟨0, []⟩).run w1) := by
  have hsearch := listsDaemons_searching hidle hlists
  rw [run_traceStartArgs_of_idle hset hidle.num,
    ← run_withErrorLabel_traceFound hsearch env daemons]
  rcases hlists with ⟨found, hrun, hfound⟩
  have hbody : (traceStartBody lib env apiname a).run w =
      (traceFound lib env a daemons).run w1 := by
    rw [← hfound]
    unfold traceStartBody
    rw [← bind_assoc]
    exact run_bind_of_ok hrun
  show withErrorLabel _ w = withErrorLabel _ w1
  unfold withErrorLabel
  rw [show traceStartBody lib env apiname a w =
    traceFound lib env a daemons w1 from hbody]

/-!
## Outcomes

Every request that is served while idle, and names a criterion, ends in one of
four ways.
-/

inductive StartOutcome (lib : Libs) (env : Env) (apiname : Option String)
    (a : TraceArgs) (w : World) : Int -> World -> Prop where
  | noMemory {w' : World} (e : Event) :
      w'.Idle ->
      w'.log = w.log ++ [e, Event.fail "failed" "out of memory"] ->
      e.isAllocation = true ->
      StartOutcome lib env apiname a w errorCode w'
  | noMatch {daemons : List Daemon} {w1 w2 : World} {l : Locals} :
      ListsDaemons lib env apiname a w daemons w1 ->
      PlanDone (plan lib a daemons) ⟨0, []⟩ w1 l w2 ->
      visitedPids (plan lib a daemons) = [] ->
      StartOutcome lib env apiname a w errorCode
        (w2.emit (Event.fail "failed" (noMatchInfo daemons))).clearRecord
  | started {daemons : List Daemon} {w1 w2 : World} {l : Locals} :
      ListsDaemons lib env apiname a w daemons w1 ->
      PlanDone (plan lib a daemons) ⟨0, []⟩ w1 l w2 ->
      visitedPids (plan lib a daemons) ≠ [] ->
      StartOutcome lib env apiname a w 0
        (w2.emit (Event.success (Payload.pids (visitedPids (plan lib a daemons)))
          (some "Trace successfully started")))
  | refused {daemons : List Daemon} {w1 w2 : World} :
      ListsDaemons lib env apiname a w daemons w1 ->
      (runPlan env a.level (plan lib a daemons) ⟨0, []⟩).run w1 =
        .error Exit.gotoError w2 ->
      StartOutcome lib env apiname a w errorCode w2.clearRecord

theorem startOutcome_of_listsDaemons {rc : Int} {w' : World}
    (hset : ¬ a.Unset) (hidle : w.Idle)
    (hlists : ListsDaemons lib env apiname a w daemons w1)
    (hrun : (traceStartArgs lib env apiname a).run w = .ok rc w') :
    StartOutcome lib env apiname a w rc w' := by
  rw [run_traceStartArgs_of_listsDaemons hset hidle hlists] at hrun
  cases hplan : (runPlan env a.level (plan lib a daemons) ⟨0, []⟩).run w1 with
  | error e w2 =>
      rw [hplan] at hrun
      cases e with
      | fault f => cases hrun
      | gotoError =>
          cases hrun
          exact StartOutcome.refused hlists hplan
  | ok l w2 =>
      rw [hplan] at hrun
      have hdone := planDone_of_run_eq_ok hplan
      have hlocals := hdone.locals
      simp only [Nat.zero_add, List.nil_append] at hlocals
      subst hlocals
      by_cases hnone : visitedPids (plan lib a daemons) = []
      · simp only [finishStart, hnone, List.length_nil, if_true] at hrun
        cases hrun
        exact StartOutcome.noMatch hlists hdone hnone
      · have hlen : ¬ (visitedPids (plan lib a daemons)).length = 0 :=
          fun h => hnone (List.length_eq_zero_iff.mp h)
        simp only [finishStart, hlen, if_false] at hrun
        cases hrun
        exact StartOutcome.started hlists hdone hnone

theorem startOutcome_of_idle {rc : Int} {w' : World} (hset : ¬ a.Unset)
    (hidle : w.Idle)
    (hrun : (traceStartArgs lib env apiname a).run w = .ok rc w') :
    StartOutcome lib env apiname a w rc w' := by
  cases hprefill : (prefillRecord lib env a).run w with
  | error e w1 =>
      rcases prefillRecord_cases hidle lib env a with
        ⟨w2, hok, _⟩ | ⟨w2, alloc, herror, hlog, halloc⟩
      · rw [hok] at hprefill
        cases hprefill
      · rw [run_traceStartArgs_of_prefill_error hset hidle.num herror] at hrun
        cases hrun
        exact StartOutcome.noMemory alloc (World.clearRecord_idle w2) hlog
          halloc
  | ok u w1 =>
      cases hget : (getDaemons lib env apiname).run w1 with
      | ok found w2 =>
          have hlists : ListsDaemons lib env apiname a w
              (tableDaemons found.2) w2 :=
            ⟨found, (run_bind_of_ok hprefill).trans hget, rfl⟩
          exact startOutcome_of_listsDaemons hset hidle hlists hrun
      | error e w2 =>
          rw [run_traceStartArgs_of_collection_error hset hidle.num hprefill
            hget] at hrun
          cases hrun

end Supervisor
end XdsService
