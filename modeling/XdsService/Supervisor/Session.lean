import XdsService.Supervisor.Selection

/-!
# The session protocol

A session is running while `TracePidsNum` is positive.  This module states what
each request does to the session, and from it what holds over whole runs.
-/

namespace XdsService
namespace Supervisor

open Foundation
open Program

variable {lib : Libs} {env : Env} {apiname : Option String}
variable {queryJ : Json} {a : TraceArgs} {q : QueryArgs}
variable {w w' : World} {rc : Int} {request : Request}

/-!
## Answers
-/

/-- The request was answered once, with success exactly if it returned 0. -/
structure AnsweredOnce (w : World) (rc : Int) (w' : World) : Prop where
  appended : w.log <+: w'.log
  once : ((w.eventsSince w').filter Event.isAnswer).length = 1
  success : (exists e, e ∈ w.eventsSince w' ∧ e.isSuccess = true) <-> rc = 0

def RequestFails (w w' : World) : Prop :=
  exists status info, Event.fail status info ∈ w.eventsSince w'

theorem AnsweredOnce.log_eq (h : AnsweredOnce w rc w') :
    w'.log = w.log ++ w.eventsSince w' := by
  rcases h.appended with ⟨events, hlog⟩
  rw [World.eventsSince_of_log hlog.symm]
  exact hlog.symm

theorem isAnswer_of_isSuccess {e : Event} (h : e.isSuccess = true) :
    e.isAnswer = true := by
  cases e <;> first | rfl | cases h

theorem isAnswer_of_isDiscovery {e : Event} (h : e.isDiscovery = true) :
    e.isAnswer = false := by
  cases e <;> first | rfl | cases h

theorem isAnswer_of_isTracing {e : Event} (h : e.isTracing = true) :
    e.isAnswer = false := by
  cases e <;> first | rfl | cases h

theorem AnsweredOnce.requestFails_iff (h : AnsweredOnce w rc w') :
    RequestFails w w' <-> rc ≠ 0 := by
  rcases List.length_eq_one_iff.mp h.once with ⟨answer, honly⟩
  have hanswer : forall e, e ∈ w.eventsSince w' -> e.isAnswer = true ->
      e = answer := by
    intro e he hisAnswer
    have hmem := List.mem_filter.mpr ⟨he, hisAnswer⟩
    rw [honly] at hmem
    exact List.mem_singleton.mp hmem
  constructor
  · intro hfails hrc
    rcases hfails with ⟨status, info, hfail⟩
    rcases h.success.mpr hrc with ⟨e, he, hsuccess⟩
    have heq := (hanswer _ hfail rfl).trans
      (hanswer e he (isAnswer_of_isSuccess hsuccess)).symm
    rw [← heq] at hsuccess
    cases hsuccess
  · intro hrc
    have hmem : answer ∈ (w.eventsSince w').filter Event.isAnswer := by
      simp [honly]
    rcases List.mem_filter.mp hmem with ⟨hlogged, hisAnswer⟩
    cases answer with
    | fail status info => exact ⟨status, info, hlogged⟩
    | success payload info =>
        exact absurd (h.success.mp ⟨_, hlogged, rfl⟩) hrc
    | service call reply => cases hisAnswer
    | alloc what succeeded => cases hisAnswer

theorem answeredOnce_of_log {events : List Event} {answer : Event}
    (hlog : w'.log = w.log ++ (events ++ [answer]))
    (hevents : forall e, e ∈ events -> e.isAnswer = false)
    (hanswer : answer.isAnswer = true)
    (hrc : answer.isSuccess = true <-> rc = 0) :
    AnsweredOnce w rc w' := by
  have hsince := World.eventsSince_of_log hlog
  constructor
  · exact ⟨_, hlog.symm⟩
  · have hnone : events.filter Event.isAnswer = [] := by
      rw [List.filter_eq_nil_iff]
      intro e he
      simp [hevents e he]
    rw [hsince, List.filter_append, hnone]
    simp [hanswer]
  · rw [hsince, ← hrc]
    constructor
    · intro h
      rcases h with ⟨e, he, hsuccess⟩
      rcases List.mem_append.mp he with he | he
      · have hno := hevents e he
        rw [isAnswer_of_isSuccess hsuccess] at hno
        cases hno
      · exact List.mem_singleton.mp he ▸ hsuccess
    · intro h
      exact ⟨answer, by simp, h⟩

theorem errorCode_ne_zero : errorCode ≠ 0 := by decide

theorem answeredOnce_of_fail {events : List Event} {status info : String}
    (hlog : w'.log = w.log ++ (events ++ [Event.fail status info]))
    (hevents : forall e, e ∈ events -> e.isAnswer = false) :
    AnsweredOnce w errorCode w' := by
  apply answeredOnce_of_log hlog hevents rfl
  constructor
  · intro h
    cases h
  · intro h
    exact absurd h errorCode_ne_zero

theorem answeredOnce_of_success {events : List Event} {payload : Payload}
    {info : Option String}
    (hlog : w'.log = w.log ++ (events ++ [Event.success payload info]))
    (hevents : forall e, e ∈ events -> e.isAnswer = false) :
    AnsweredOnce w 0 w' :=
  answeredOnce_of_log hlog hevents rfl (by simp [Event.isSuccess])

theorem answeredOnce_emit_fail (w : World) (status info : String) :
    AnsweredOnce w errorCode (w.emit (Event.fail status info)) := by
  have hnone : forall e, e ∈ ([] : List Event) -> e.isAnswer = false := by
    simp
  exact answeredOnce_of_fail rfl hnone

/-!
## The invariant between requests
-/

/-- The record holds as many pids as are counted, and is NULL if there are none. -/
def SessionInv (w : World) : Prop :=
  exists ps, w.RecordIs ps ∧ (ps = [] -> w.Idle)

theorem World.Idle.sessionInv (h : w.Idle) : SessionInv w :=
  ⟨[], h.recordIs, fun _ => h⟩

theorem SessionInv.idle (h : SessionInv w) (hnum : w.tracePidsNum = 0) :
    w.Idle := by
  rcases h with ⟨ps, hps, hidle⟩
  rw [hps.num] at hnum
  exact hidle (List.length_eq_zero_iff.mp hnum)

theorem SessionInv.of_sameRecord (h : SessionInv w)
    (hsame : SameRecord w w') : SessionInv w' := by
  rcases h with ⟨ps, hps, hidle⟩
  refine ⟨ps, hsame.recordIs hps, ?_⟩
  intro hnil
  have hw := hidle hnil
  exact ⟨hsame.num.trans hw.num, hsame.arr.trans hw.arr⟩

/-!
## What a request does to the session
-/

/-- A request changes the session in one of these ways. -/
inductive SessionStep (w : World) (rc : Int) (w' : World) : Request -> Prop where
  | list : SameRecord w w' -> SessionStep w rc w' Request.list
  | rejected {queryJ : Json} :
      SameRecord w w' -> rc ≠ 0 ->
      addedPids (w.eventsSince w') = [] ->
      droppedPids (w.eventsSince w') = [] ->
      SessionStep w rc w' (Request.traceStart queryJ)
  | failed {queryJ : Json} :
      w.Idle -> w'.Idle -> rc ≠ 0 ->
      SessionStep w rc w' (Request.traceStart queryJ)
  | started {queryJ : Json} :
      w.Idle -> 0 < w'.tracePidsNum -> rc = 0 ->
      SessionStep w rc w' (Request.traceStart queryJ)
  | refused :
      w.Idle -> w'.Idle -> rc ≠ 0 ->
      droppedPids (w.eventsSince w') = [] ->
      SessionStep w rc w' Request.traceStop
  | stopped :
      0 < w.tracePidsNum -> w'.Idle ->
      droppedPids (w.eventsSince w') ≠ [] ->
      SessionStep w rc w' Request.traceStop

/-- What the session and the answer of a request look like. -/
structure Served (w : World) (request : Request) (rc : Int) (w' : World) :
    Prop where
  answered : AnsweredOnce w rc w'
  inv : SessionInv w'
  session : SessionStep w rc w' request

theorem served_traceStart_of_fail {status info : String} (h : SessionInv w) :
    Served w (Request.traceStart queryJ) errorCode
      (w.emit (Event.fail status info)) := by
  have hsince : w.eventsSince (w.emit (Event.fail status info)) =
      [Event.fail status info] := World.eventsSince_of_log rfl
  have hsame : SameRecord w (w.emit (Event.fail status info)) := ⟨rfl, rfl⟩
  constructor
  · exact answeredOnce_emit_fail w status info
  · exact h.of_sameRecord hsame
  · refine SessionStep.rejected hsame errorCode_ne_zero ?_ ?_
    · rw [hsince]
      rfl
    · rw [hsince]
      rfl

theorem Searching.append_log {w1 : World} {tracing : List Event}
    (h : Searching lib a w w1)
    (htracing : forall e, e ∈ tracing -> e.isTracing = true) :
    exists events, w1.log ++ tracing = w.log ++ events ∧
      forall e, e ∈ events -> e.isAnswer = false := by
  rcases h.log with ⟨found, hlog, hall⟩
  refine ⟨found ++ tracing, by rw [hlog, List.append_assoc], ?_⟩
  intro e he
  rcases List.mem_append.mp he with he | he
  · exact isAnswer_of_isDiscovery (hall e he)
  · exact isAnswer_of_isTracing (htracing e he)

theorem served_traceStart_of_outcome (hidle : w.Idle)
    (h : StartOutcome lib env apiname a w rc w') :
    Served w (Request.traceStart queryJ) rc w' := by
  cases h with
  | noMemory e hidle' hlog he =>
      have hnone : forall e', e' ∈ [e] -> e'.isAnswer = false := by
        intro e' he'
        rw [List.mem_singleton.mp he']
        exact isAnswer_of_isDiscovery (isDiscovery_of_isAllocation he)
      exact ⟨answeredOnce_of_fail hlog hnone, hidle'.sessionInv,
        SessionStep.failed hidle hidle' errorCode_ne_zero⟩
  | @noMatch daemons w1 w2 l hlists hdone hnone =>
      rcases hdone.log with ⟨tracing, hlog, htracing, _⟩
      rcases (listsDaemons_searching hidle hlists).append_log htracing with
        ⟨events, hevents, hall⟩
      have hidle' := World.clearRecord_idle
        (w2.emit (Event.fail "failed" (noMatchInfo daemons)))
      have hlog' : w2.log ++ [Event.fail "failed" (noMatchInfo daemons)] =
          w.log ++
            (events ++ [Event.fail "failed" (noMatchInfo daemons)]) := by
        rw [hlog, hevents, List.append_assoc]
      exact ⟨answeredOnce_of_fail hlog' hall, hidle'.sessionInv,
        SessionStep.failed hidle hidle' errorCode_ne_zero⟩
  | @started daemons w1 w2 l hlists hdone hvisited =>
      have hsearch := listsDaemons_searching hidle hlists
      rcases hdone.log with ⟨tracing, hlog, htracing, _⟩
      rcases hsearch.append_log htracing with ⟨events, hevents, hall⟩
      have hrecord := hdone.recordIs _ hsearch.recordIs
      have hne := recordAfterPlan_ne_nil hvisited
      have hpos : 0 < w2.tracePidsNum := by
        rw [hrecord.num]
        exact List.length_pos_of_ne_nil hne
      have hlog' : forall answer, w2.log ++ [answer] =
          w.log ++ (events ++ [answer]) := by
        intro answer
        rw [hlog, hevents, List.append_assoc]
      exact ⟨answeredOnce_of_success (hlog' _) hall,
        ⟨_, hrecord.emit _, fun hnil => absurd hnil hne⟩,
        SessionStep.started hidle hpos rfl⟩
  | @refused daemons w1 w2 hlists hplan =>
      have hsearch := listsDaemons_searching hidle hlists
      have hidle' := World.clearRecord_idle w2
      cases planBroken_of_run_eq_error hplan with
      | refused tracing info hlog htracing _ =>
          rcases hsearch.append_log htracing with ⟨events, hevents, hall⟩
          rw [hevents, List.append_assoc] at hlog
          exact ⟨answeredOnce_of_fail hlog hall, hidle'.sessionInv,
            SessionStep.failed hidle hidle' errorCode_ne_zero⟩

theorem served_traceStart (hinv : SessionInv w)
    (h : (traceStart lib env apiname queryJ).run w = .ok rc w') :
    Served w (Request.traceStart queryJ) rc w' := by
  cases startEntry_of_run h with
  | refused status info _ => exact served_traceStart_of_fail hinv
  | entered q hquery hset hnum hrun =>
      have hidle := hinv.idle hnum
      exact served_traceStart_of_outcome hidle
        (startOutcome_of_idle hset hidle hrun)

theorem isAnswer_of_mem_dropEvents {log : List Event} {ps : List Int}
    {e : Event} (h : e ∈ dropEvents env log ps) : e.isAnswer = false := by
  rcases List.mem_map.mp h with ⟨d, _, rfl⟩
  rfl

theorem served_traceStop (hinv : SessionInv w)
    (h : (traceStop env).run w = .ok rc w') :
    Served w Request.traceStop rc w' := by
  by_cases hnum : w.tracePidsNum = 0
  · have hidle := hinv.idle hnum
    rw [run_traceStop_of_idle env hnum] at h
    cases h
    have hsince : w.eventsSince
          (w.emit (Event.fail "failed" "Trace already stopped")) =
        [Event.fail "failed" "Trace already stopped"] :=
      World.eventsSince_of_log rfl
    refine ⟨answeredOnce_emit_fail w _ _, (hidle.emit _).sessionInv,
      SessionStep.refused hidle (hidle.emit _) errorCode_ne_zero ?_⟩
    rw [hsince]
    rfl
  · rcases hinv with ⟨ps, hps, hnil⟩
    have hne : ps ≠ [] := fun heq => hnum (hnil heq).num
    rcases stopped_world hps hne h with ⟨hidle', rfl, hlog, _⟩
    rw [List.append_assoc] at hlog
    have hsince := World.eventsSince_of_log hlog
    have hevents : forall e, e ∈ dropEvents env w.log ps ->
        e.isAnswer = false := fun e he => isAnswer_of_mem_dropEvents he
    refine ⟨?_, hidle'.sessionInv,
      SessionStep.stopped (by omega) hidle' ?_⟩
    · unfold stopAnswer at hlog
      unfold stopCode
      split at hlog
      · rename_i hrejected
        rw [if_pos hrejected]
        exact answeredOnce_of_fail hlog hevents
      · rename_i hrejected
        rw [if_neg hrejected]
        exact answeredOnce_of_success hlog hevents
    · rw [hsince, droppedPids_append, droppedPids_dropEvents]
      simp [hne]

theorem served_list (hinv : SessionInv w)
    (h : (list lib env apiname).run w = .ok rc w') :
    Served w Request.list rc w' := by
  rcases run_bind_eq_ok h with ⟨found, w1, hget, hanswer⟩
  have hquiet := (quiet_getDaemons lib env apiname).ok hget
  rcases hquiet.log with ⟨events, hlog, hall⟩
  have hevents : forall e, e ∈ events -> e.isAnswer = false :=
    fun e he => isAnswer_of_isDiscovery (hall e he)
  have hlog' : forall answer, w1.log ++ [answer] =
      w.log ++ (events ++ [answer]) := by
    intro answer
    rw [hlog, List.append_assoc]
  cases htable : found.2 with
  | none =>
      rw [htable] at hanswer
      cases hanswer
      have hsame : SameRecord w (w1.emit
          (Event.fail "Failed" "Error daemon list null")) :=
        ⟨hquiet.num, hquiet.arr⟩
      exact ⟨answeredOnce_of_fail (hlog' _) hevents,
        hinv.of_sameRecord hsame, SessionStep.list hsame⟩
  | some table =>
      rw [htable] at hanswer
      cases hanswer
      have hsame : SameRecord w (w1.emit (Event.success
          (Payload.daemons (table.daemons.map (packDaemon lib))) none)) :=
        ⟨hquiet.num, hquiet.arr⟩
      exact ⟨answeredOnce_of_success (hlog' _) hevents,
        hinv.of_sameRecord hsame, SessionStep.list hsame⟩

/-- Every request that returns is served so, from any state between requests. -/
theorem served_of_serves (hinv : SessionInv w)
    (h : Serves lib env apiname w request rc w') :
    Served w request rc w' := by
  cases request with
  | list => exact served_list hinv h
  | traceStart queryJ => exact served_traceStart hinv h
  | traceStop => exact served_traceStop hinv h

end Supervisor
end XdsService
