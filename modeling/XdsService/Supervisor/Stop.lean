import Mathlib.Data.Finset.SDiff
import XdsService.Supervisor.Start

/-!
# What a trace_stop request does

The handler sends one drop for every recorded pid, counts the rejected ones and
releases the record whatever the answers were.
-/

namespace XdsService
namespace Supervisor

open Foundation
open Program

/-!
## A sequence of drops
-/

/-- The pids dropped one after another, each with the answer to its drop. -/
def dropReplies (env : Env) : List Event -> List Int -> List (Int × Reply)
  | _, [] => []
  | log, pid :: rest =>
      (pid, env.service log (Call.traceDrop pid)) ::
        dropReplies env (log ++ [dropEvent env log pid]) rest

def dropEvents (env : Env) (log : List Event) (ps : List Int) : List Event :=
  (dropReplies env log ps).map
    fun d => Event.service (Call.traceDrop d.1) d.2

def rejectedDrops (env : Env) (log : List Event) (ps : List Int) : Nat :=
  ((dropReplies env log ps).filter fun d => decide (d.2.rc < 0)).length

def acceptedDrops (env : Env) (log : List Event) (ps : List Int) : List Int :=
  ((dropReplies env log ps).filter fun d => d.2.accepted).map Prod.fst

def World.afterDrops (w : World) (env : Env) (ps : List Int) : World :=
  { w with log := w.log ++ dropEvents env w.log ps }

section Drops

variable (env : Env) (log : List Event) (pid : Int) (rest : List Int)

theorem dropReplies_cons :
    dropReplies env log (pid :: rest) =
      (pid, env.service log (Call.traceDrop pid)) ::
        dropReplies env (log ++ [dropEvent env log pid]) rest := rfl

theorem dropEvents_cons :
    dropEvents env log (pid :: rest) =
      dropEvent env log pid ::
        dropEvents env (log ++ [dropEvent env log pid]) rest := rfl

theorem rejectedDrops_cons :
    rejectedDrops env log (pid :: rest) =
      (if (env.service log (Call.traceDrop pid)).rc < 0 then 1 else 0) +
        rejectedDrops env (log ++ [dropEvent env log pid]) rest := by
  unfold rejectedDrops
  rw [dropReplies_cons, List.filter_cons]
  by_cases h : (env.service log (Call.traceDrop pid)).rc < 0
  · simp [h, Nat.add_comm]
  · simp [h]

theorem acceptedDrops_cons :
    acceptedDrops env log (pid :: rest) =
      (if 0 ≤ (env.service log (Call.traceDrop pid)).rc then [pid] else []) ++
        acceptedDrops env (log ++ [dropEvent env log pid]) rest := by
  unfold acceptedDrops
  rw [dropReplies_cons, List.filter_cons]
  by_cases h : 0 ≤ (env.service log (Call.traceDrop pid)).rc
  · simp [h, Reply.accepted]
  · simp [h, Reply.accepted]

end Drops

theorem droppedPids_dropEvents (env : Env) (log : List Event)
    (ps : List Int) : droppedPids (dropEvents env log ps) = ps := by
  induction ps generalizing log with
  | nil => rfl
  | cons pid rest ih =>
      rw [dropEvents_cons]
      show pid :: droppedPids _ = _
      rw [ih]

/-- The drops take out exactly the pids whose drop was accepted. -/
theorem traced_append_dropEvents (env : Env) (log : List Event)
    (ps : List Int) :
    traced (log ++ dropEvents env log ps) =
      traced log \ (acceptedDrops env log ps).toFinset := by
  induction ps generalizing log with
  | nil => simp [dropEvents, dropReplies, acceptedDrops]
  | cons pid rest ih =>
      have hcut : log ++ dropEvents env log (pid :: rest) =
          (log ++ [dropEvent env log pid]) ++
            dropEvents env (log ++ [dropEvent env log pid]) rest := by
        rw [dropEvents_cons]
        simp
      rw [hcut, ih, traced_append_dropEvent, acceptedDrops_cons]
      by_cases h : 0 ≤ (env.service log (Call.traceDrop pid)).rc
      · ext p
        simp only [h, if_true, Finset.mem_sdiff, Finset.mem_erase,
          List.mem_toFinset, List.mem_append, List.mem_singleton, not_or]
        tauto
      · simp [h]

/-!
## The handler
-/

theorem foldlM_traceDrop (env : Env) (ps : List Int) (w : World) (n : Nat) :
    (ps.foldlM
        (fun nbErr pid => do
          let rc <- traceDrop env pid
          pure (if rc < 0 then nbErr + 1 else nbErr)) n : Handler Nat).run w =
      .ok (n + rejectedDrops env w.log ps) (w.afterDrops env ps) := by
  induction ps generalizing w n with
  | nil =>
      simp [World.afterDrops, dropEvents, dropReplies, rejectedDrops]
  | cons pid rest ih =>
      rw [List.foldlM_cons, EStateM.run_bind, EStateM.run_bind, run_traceDrop]
      show (List.foldlM _ _ rest : Handler Nat).run _ = _
      rw [ih, rejectedDrops_cons, World.emit_log]
      congr 1
      · split
        · omega
        · omega
      · simp [World.afterDrops, World.emit, dropEvents_cons]

theorem run_dropRecorded {env : Env} {w : World} {ps : List Int}
    (h : w.RecordIs ps) :
    (dropRecorded env).run w =
      .ok (rejectedDrops env w.log ps) (w.afterDrops env ps) := by
  have hstep : forall (nbErr : Nat) (pid : Int), Moves SameRecord AnyExit
      (do
        let rc <- traceDrop env pid
        pure (if rc < 0 then nbErr + 1 else nbErr)) :=
    fun nbErr pid =>
      moves_bind (sameRecord_traceDrop env pid) fun rc => moves_pure _
  have hloop := foldlM_readPid hstep h 0
  unfold dropRecorded
  rw [EStateM.run_bind, EStateM.run_get]
  refine hloop.trans ?_
  rw [foldlM_traceDrop, Nat.zero_add]

def stopAnswer (nbErr : Nat) : Event :=
  if nbErr ≠ 0 then
    Event.fail "failed"
      ("Error while stopping tracing (" ++ toString nbErr ++ ")")
  else
    Event.success Payload.null (some "Trace successfully stopped")

def stopCode (nbErr : Nat) : Int := if nbErr ≠ 0 then errorCode else 0

theorem run_traceStop_of_idle (env : Env) {w : World}
    (h : w.tracePidsNum = 0) :
    (traceStop env).run w =
      .ok errorCode (w.emit (Event.fail "failed" "Trace already stopped")) := by
  unfold traceStop
  rw [EStateM.run_bind, EStateM.run_get]
  show (if w.tracePidsNum = 0 then _ else _ : Handler Int).run w = _
  rw [if_pos h]
  rfl

theorem run_traceStop_of_recordIs {env : Env} {w : World} {ps : List Int}
    (h : w.RecordIs ps) (hps : ps ≠ []) :
    (traceStop env).run w =
      .ok (stopCode (rejectedDrops env w.log ps))
        ((w.afterDrops env ps).clearRecord.emit
          (stopAnswer (rejectedDrops env w.log ps))) := by
  have hnum : ¬ w.tracePidsNum = 0 := by
    rw [h.num]
    exact fun hlen => hps (List.length_eq_zero_iff.mp hlen)
  unfold traceStop
  rw [EStateM.run_bind, EStateM.run_get]
  show (if w.tracePidsNum = 0 then _ else _ : Handler Int).run w = _
  rw [if_neg hnum, run_bind_of_ok (run_dropRecorded h),
    run_bind_of_ok (run_releaseRecord _)]
  unfold stopCode stopAnswer
  by_cases hrejected : rejectedDrops env w.log ps ≠ 0
  · rw [if_pos hrejected, if_pos hrejected, if_pos hrejected]
    rfl
  · rw [if_neg hrejected, if_neg hrejected, if_neg hrejected]
    rfl

/-- After a stop that was not refused: no session, and the accepted drops. -/
theorem stopped_world {env : Env} {w : World} {ps : List Int} {rc : Int}
    {w' : World} (h : w.RecordIs ps) (hps : ps ≠ [])
    (hrun : (traceStop env).run w = .ok rc w') :
    w'.Idle ∧
      rc = stopCode (rejectedDrops env w.log ps) ∧
      w'.log = w.log ++ dropEvents env w.log ps ++
        [stopAnswer (rejectedDrops env w.log ps)] ∧
      traced w'.log = traced w.log \ (acceptedDrops env w.log ps).toFinset := by
  rw [run_traceStop_of_recordIs h hps] at hrun
  cases hrun
  refine ⟨⟨rfl, rfl⟩, rfl, rfl, ?_⟩
  have hanswer : tracedEntry (stopAnswer (rejectedDrops env w.log ps)) =
      none := by
    unfold stopAnswer
    split
    · rfl
    · rfl
  rw [← traced_append_dropEvents]
  exact traced_append_of_none hanswer

end Supervisor
end XdsService
