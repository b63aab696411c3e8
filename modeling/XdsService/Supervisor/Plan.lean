import XdsService.Supervisor.Record

/-!
# The plan of a trace_start request

Which daemons `trace_start` traces, in which order and with which change of the
record, depends on the arguments and the daemon list alone: it is a plan that
can be written down before the first call is made.  The nested loops of the
handler carry out this plan until the first call that is refused.
-/

namespace XdsService
namespace Supervisor

open Foundation
open Program

/-!
## Plans
-/

/-- What happens to the record once a daemon has been traced. -/
inductive RecordUpdate where
  | keep
  | overwrite
  | append
deriving DecidableEq, Repr

/-- Trace a daemon, or take the length of a socket list that is no array. -/
inductive PlanStep where
  | visit (d : Daemon) (update : RecordUpdate)
  | crash

def scanPlan (lib : Libs) (ws : String) (d : Daemon) (sockets : Json) :
    List PlanStep :=
  match sockets.items? with
  | none => [PlanStep.crash]
  | some items =>
      if items.any (socketMatches lib ws) then
        [PlanStep.visit d RecordUpdate.append]
      else
        []

def pidsPlan (lib : Libs) (a : TraceArgs) (d : Daemon) : List PlanStep :=
  ((requestedPids lib a).filter fun p => decide (p = d.pid)).map
    fun _ => PlanStep.visit d RecordUpdate.keep

def wsPlan (lib : Libs) (a : TraceArgs) (d : Daemon) : List PlanStep :=
  scanPlan lib a.ws d d.wsServers ++ scanPlan lib a.ws d d.wsClients

/-- What is done with a daemon whose pid is not the one asked for. -/
def otherPlan (lib : Libs) (a : TraceArgs) (d : Daemon) : List PlanStep :=
  if a.pids.isNull = false then pidsPlan lib a d else wsPlan lib a d

def plan (lib : Libs) (a : TraceArgs) : List Daemon -> List PlanStep
  | [] => []
  | d :: rest =>
      if a.pid ≠ -1 ∧ a.pid = d.pid then
        [PlanStep.visit d RecordUpdate.overwrite]
      else
        otherPlan lib a d ++ plan lib a rest

def updateRecord (env : Env) : RecordUpdate -> Int -> Handler Unit
  | RecordUpdate.keep, _ => pure ()
  | RecordUpdate.overwrite, pid => overwriteRecord env pid
  | RecordUpdate.append, pid => appendRecord env pid

def runPlan (env : Env) (level : Option String) :
    List PlanStep -> Locals -> Handler Locals
  | [], l => pure l
  | PlanStep.crash :: _, _ => fault Fault.notArray
  | PlanStep.visit d update :: rest, l => do
      let l <- traceDaemonMacro env d level l
      updateRecord env update d.pid
      runPlan env level rest l

theorem runPlan_append (env : Env) (level : Option String)
    (first second : List PlanStep) (l : Locals) :
    runPlan env level (first ++ second) l =
      (do let l <- runPlan env level first l; runPlan env level second l) := by
  induction first generalizing l with
  | nil => simp [runPlan]
  | cons step rest ih =>
      cases step with
      | crash => rfl
      | visit d update =>
          simp only [List.cons_append, runPlan, bind_assoc]
          congr
          funext l1
          congr
          funext _
          exact ih l1

/-!
## The handler carries out the plan
-/

theorem scanSockets_eq_runPlan (lib : Libs) (env : Env) (a : TraceArgs)
    (d : Daemon) (items : List Json) (l : Locals) :
    scanSockets lib env a d items l =
      runPlan env a.level
        (if items.any (socketMatches lib a.ws) then
          [PlanStep.visit d RecordUpdate.append] else []) l := by
  induction items with
  | nil => rfl
  | cons socket rest ih =>
      unfold scanSockets
      by_cases hmatch : socketMatches lib a.ws socket = true
      · simp [hmatch, runPlan, updateRecord]
      · simp [hmatch, ih]

theorem arrayItems_bind_scanSockets (lib : Libs) (env : Env) (a : TraceArgs)
    (d : Daemon) (sockets : Json) (l : Locals) :
    (do
        let items <- arrayItems sockets
        scanSockets lib env a d items l) =
      runPlan env a.level (scanPlan lib a.ws d sockets) l := by
  unfold arrayItems scanPlan
  cases sockets.items? with
  | none => rfl
  | some items =>
      simp only [pure_bind]
      exact scanSockets_eq_runPlan lib env a d items l

theorem scans_eq_runPlan (lib : Libs) (env : Env) (a : TraceArgs)
    (d : Daemon) (rest : List Daemon) (l : Locals) :
    (do
        let servers <- arrayItems d.wsServers
        let l <- scanSockets lib env a d servers l
        let clients <- arrayItems d.wsClients
        let l <- scanSockets lib env a d clients l
        selectDaemons lib env a rest l) =
      (do
        let l <- runPlan env a.level (wsPlan lib a d) l
        selectDaemons lib env a rest l) := by
  unfold wsPlan
  rw [runPlan_append, ← arrayItems_bind_scanSockets]
  simp only [bind_assoc, ← arrayItems_bind_scanSockets]

theorem foldlM_eq_runPlan (env : Env) (level : Option String) (d : Daemon)
    (ps : List Int) (l : Locals) :
    ps.foldlM
        (fun l pid =>
          if pid = d.pid then traceDaemonMacro env d level l else pure l) l =
      runPlan env level
        ((ps.filter fun p => decide (p = d.pid)).map
          fun _ => PlanStep.visit d RecordUpdate.keep) l := by
  induction ps generalizing l with
  | nil => rfl
  | cons pid rest ih =>
      rw [List.foldlM_cons]
      by_cases hpid : pid = d.pid
      · simp [hpid, runPlan, updateRecord, ih]
      · simp [hpid, ih]

theorem run_matchPids {lib : Libs} {env : Env} {a : TraceArgs} {w : World}
    (h : w.RecordIs (requestedPids lib a)) (d : Daemon) (l : Locals) :
    (matchPids env a.level d l).run w =
      (runPlan env a.level (pidsPlan lib a d) l).run w := by
  have hstep : forall (l : Locals) (pid : Int), Moves SameRecord AnyExit
      (if pid = d.pid then traceDaemonMacro env d a.level l else pure l) :=
    fun l pid => moves_ite (sameRecord_traceDaemonMacro env d a.level l)
      (moves_pure l)
  have hloop := foldlM_readPid hstep h l
  unfold matchPids pidsPlan
  rw [EStateM.run_bind, EStateM.run_get, ← foldlM_eq_runPlan]
  exact hloop

theorem sameRecord_runPlan_pidsPlan (lib : Libs) (env : Env) (a : TraceArgs)
    (d : Daemon) (l : Locals) :
    Moves SameRecord AnyExit (runPlan env a.level (pidsPlan lib a d) l) := by
  unfold pidsPlan
  rw [← foldlM_eq_runPlan]
  apply moves_foldlM
  intro l pid
  exact moves_ite (sameRecord_traceDaemonMacro env d a.level l) (moves_pure l)

/--
The record with which the search starts: that of the request's array, if the
matching is by the record at all.
-/
def Prefilled (lib : Libs) (a : TraceArgs) (w : World) : Prop :=
  a.pids.isNull = false -> w.RecordIs (requestedPids lib a)

theorem run_selectDaemons {lib : Libs} {env : Env} {a : TraceArgs} {w : World}
    (h : Prefilled lib a w) (daemons : List Daemon) (l : Locals) :
    (selectDaemons lib env a daemons l).run w =
      (runPlan env a.level (plan lib a daemons) l).run w := by
  induction daemons generalizing w l with
  | nil => rfl
  | cons d rest ih =>
      unfold selectDaemons plan
      by_cases hpid : a.pid ≠ -1 ∧ a.pid = d.pid
      · rw [if_pos hpid, if_pos hpid]
        rfl
      rw [if_neg hpid, if_neg hpid, runPlan_append]
      by_cases hpids : a.pids.isNull = false
      · have hother : otherPlan lib a d = pidsPlan lib a d := if_pos hpids
        rw [if_pos hpids, hother, EStateM.run_bind, EStateM.run_bind,
          run_matchPids (h hpids)]
        cases hrun : (runPlan env a.level (pidsPlan lib a d) l).run w with
        | error e w1 => rfl
        | ok l1 w1 =>
            have hsame : SameRecord w w1 :=
              (sameRecord_runPlan_pidsPlan lib env a d l).ok hrun
            exact ih (fun hnull => hsame.recordIs (h hnull)) l1
      · have hother : otherPlan lib a d = wsPlan lib a d := if_neg hpids
        rw [if_neg hpids, hother, scans_eq_runPlan, EStateM.run_bind,
          EStateM.run_bind]
        cases (runPlan env a.level (wsPlan lib a d) l).run w with
        | error e w1 => rfl
        | ok l1 w1 =>
            exact ih (fun hnull => absurd hnull hpids) l1

end Supervisor
end XdsService
