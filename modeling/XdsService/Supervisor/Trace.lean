import XdsService.Supervisor.Daemons

/-!
# Switching traces on and off

`trace_daemon` drops the XDS traces of a daemon and adds them again at the
level asked for.  What the supervisor carries is known from the accepted adds
and drops in the log.
-/

namespace XdsService
namespace Supervisor

open Foundation

def traceDrop (env : Env) (pid : Int) : Handler Int := do
  let reply <- serviceSync env (Call.traceDrop pid)
  pure reply.rc

def requestLevels (level : Option String) : List String :=
  if startsWithAll level then ["all"] else ["life", "reply"]

def eventLevels (level : Option String) : List String :=
  if startsWithAll level then ["all"] else ["common"]

def addCall (level : Option String) (pid : Int) : Call :=
  Call.traceAdd pid (requestLevels level) (eventLevels level)

/-- `trace_daemon`; the answer to the first drop is ignored. -/
def traceDaemon (env : Env) (dm : Option Daemon) (level : Option String) :
    Handler Int :=
  match dm with
  | none => pure (-1)
  | some dm => do
      let _ <- traceDrop env dm.pid
      let reply <- serviceSync env (addCall level dm.pid)
      if reply.rc < 0 then pure reply.rc else pure 0

/-!
## The traced pids
-/

def tracedEntry : Event -> Option (Ledger.Entry Int)
  | Event.service (Call.traceAdd pid _ _) reply =>
      if reply.accepted then some (Ledger.Entry.add pid) else none
  | Event.service (Call.traceDrop pid) reply =>
      if reply.accepted then some (Ledger.Entry.remove pid) else none
  | _ => none

/-- The pids that carry XDS traces after the calls of a log. -/
def traced (log : List Event) : Finset Int :=
  Ledger.replay (log.filterMap tracedEntry)

@[simp] theorem traced_nil : traced [] = ∅ := rfl

theorem traced_append_of_none {log : List Event} {e : Event}
    (he : tracedEntry e = none) : traced (log ++ [e]) = traced log := by
  simp [traced, he]

theorem traced_append_of_some {log : List Event} {e : Event}
    {entry : Ledger.Entry Int} (he : tracedEntry e = some entry) :
    traced (log ++ [e]) = entry.apply (traced log) := by
  simp [traced, he, Ledger.replay_append_singleton]

theorem tracedEntry_of_isDiscovery {e : Event} (he : e.isDiscovery = true) :
    tracedEntry e = none := by
  cases e with
  | service call reply =>
      cases call <;> first | rfl | cases he
  | alloc what succeeded => rfl
  | success payload info => cases he
  | fail status info => cases he

theorem traced_append_discovery {log events : List Event}
    (h : forall e, e ∈ events -> e.isDiscovery = true) :
    traced (log ++ events) = traced log := by
  have hnone : events.filterMap tracedEntry = [] :=
    List.filterMap_eq_nil_iff.mpr
      fun e he => tracedEntry_of_isDiscovery (h e he)
  simp [traced, hnone]

/-!
## Assumptions on the supervisor and the allocator
-/

def AcceptsAdds (env : Env) : Prop :=
  forall log pid requests events,
    0 ≤ (env.service log (Call.traceAdd pid requests events)).rc

def AcceptsTracedDrops (env : Env) : Prop :=
  forall log pid, pid ∈ traced log ->
    0 ≤ (env.service log (Call.traceDrop pid)).rc

def RejectsExactlyUntraced (env : Env) : Prop :=
  forall log pid,
    (env.service log (Call.traceDrop pid)).rc < 0 <-> pid ∉ traced log

/-- Every allocation succeeds; one of no cells may still give NULL. -/
def AllocationsSucceed (env : Env) : Prop :=
  forall log what, what ≠ Allocation.mallocPids 0 -> env.alloc log what = true

theorem RejectsExactlyUntraced.acceptsTracedDrops {env : Env}
    (h : RejectsExactlyUntraced env) : AcceptsTracedDrops env := by
  intro log pid hpid
  by_contra hrc
  exact (h log pid).mp (by omega) hpid

/-!
## What tracing one daemon does
-/

def dropEvent (env : Env) (log : List Event) (pid : Int) : Event :=
  Event.service (Call.traceDrop pid) (env.service log (Call.traceDrop pid))

def addReply (env : Env) (level : Option String) (log : List Event)
    (pid : Int) : Reply :=
  env.service (log ++ [dropEvent env log pid]) (addCall level pid)

def addEvent (env : Env) (level : Option String) (log : List Event)
    (pid : Int) : Event :=
  Event.service (addCall level pid) (addReply env level log pid)

def World.afterTrace (w : World) (env : Env) (level : Option String)
    (pid : Int) : World :=
  (w.emit (dropEvent env w.log pid)).emit (addEvent env level w.log pid)

@[simp] theorem afterTrace_tracePidsNum (w : World) (env : Env)
    (level : Option String) (pid : Int) :
    (w.afterTrace env level pid).tracePidsNum = w.tracePidsNum := rfl

@[simp] theorem afterTrace_tracePidsArr (w : World) (env : Env)
    (level : Option String) (pid : Int) :
    (w.afterTrace env level pid).tracePidsArr = w.tracePidsArr := rfl

@[simp] theorem afterTrace_log (w : World) (env : Env)
    (level : Option String) (pid : Int) :
    (w.afterTrace env level pid).log =
      w.log ++ [dropEvent env w.log pid, addEvent env level w.log pid] := by
  simp [World.afterTrace]

@[simp] theorem run_traceDrop (env : Env) (pid : Int) (w : World) :
    (traceDrop env pid).run w =
      .ok (env.service w.log (Call.traceDrop pid)).rc
        (w.emit (dropEvent env w.log pid)) := rfl

theorem run_traceDaemon (env : Env) (dm : Daemon) (level : Option String)
    (w : World) :
    (traceDaemon env (some dm) level).run w =
      .ok (min (addReply env level w.log dm.pid).rc 0)
        (w.afterTrace env level dm.pid) := by
  have hreply : addReply env level w.log dm.pid =
      env.service (w.log ++ [dropEvent env w.log dm.pid])
        (addCall level dm.pid) := rfl
  simp only [traceDaemon, EStateM.run_bind, run_traceDrop, run_serviceSync,
    World.emit_log, ← hreply]
  split
  · rw [min_eq_left (by omega)]
    rfl
  · rw [min_eq_right (by omega)]
    rfl

theorem tracedEntry_dropEvent_of_accepted {env : Env} {log : List Event}
    {pid : Int} (h : 0 ≤ (env.service log (Call.traceDrop pid)).rc) :
    tracedEntry (dropEvent env log pid) = some (Ledger.Entry.remove pid) := by
  simp [tracedEntry, dropEvent, Reply.accepted, h]

theorem tracedEntry_dropEvent_of_rejected {env : Env} {log : List Event}
    {pid : Int} (h : (env.service log (Call.traceDrop pid)).rc < 0) :
    tracedEntry (dropEvent env log pid) = none := by
  simp [tracedEntry, dropEvent, Reply.accepted, h]

/-- A drop takes at most its own pid out of the traced ones. -/
theorem traced_append_dropEvent (env : Env) (log : List Event) (pid : Int) :
    traced (log ++ [dropEvent env log pid]) =
      if 0 ≤ (env.service log (Call.traceDrop pid)).rc then
        (traced log).erase pid
      else
        traced log := by
  split
  · rename_i h
    exact traced_append_of_some (tracedEntry_dropEvent_of_accepted h)
  · rename_i h
    exact traced_append_of_none
      (tracedEntry_dropEvent_of_rejected (by omega))

theorem traced_append_dropEvent_of_acceptsTracedDrops {env : Env}
    (hdrops : AcceptsTracedDrops env) (log : List Event) (pid : Int) :
    traced (log ++ [dropEvent env log pid]) = (traced log).erase pid := by
  rw [traced_append_dropEvent]
  split
  · rfl
  · rename_i hrejected
    have hpid : pid ∉ traced log := fun h => hrejected (hdrops log pid h)
    exact (Finset.erase_eq_of_notMem hpid).symm

theorem tracedEntry_addEvent_of_accepted {env : Env} {level : Option String}
    {log : List Event} {pid : Int} (h : 0 ≤ (addReply env level log pid).rc) :
    tracedEntry (addEvent env level log pid) =
      some (Ledger.Entry.add pid) := by
  simp [tracedEntry, addEvent, addCall, Reply.accepted, h]

theorem tracedEntry_addEvent_of_rejected {env : Env} {level : Option String}
    {log : List Event} {pid : Int} (h : (addReply env level log pid).rc < 0) :
    tracedEntry (addEvent env level log pid) = none := by
  simp [tracedEntry, addEvent, addCall, Reply.accepted, h]

theorem traced_afterTrace_of_accepted {env : Env} {level : Option String}
    {w : World} {pid : Int} (h : 0 ≤ (addReply env level w.log pid).rc) :
    traced (w.afterTrace env level pid).log = insert pid (traced w.log) := by
  have hentry := tracedEntry_addEvent_of_accepted h
  show traced ((w.log ++ [dropEvent env w.log pid]) ++
    [addEvent env level w.log pid]) = _
  rw [traced_append_of_some hentry, traced_append_dropEvent]
  show insert pid _ = _
  split
  · ext p
    by_cases hp : p = pid <;> simp [hp]
  · rfl

theorem traced_afterTrace_of_rejected {env : Env} {level : Option String}
    (hdrops : AcceptsTracedDrops env) {w : World} {pid : Int}
    (h : (addReply env level w.log pid).rc < 0) :
    traced (w.afterTrace env level pid).log = (traced w.log).erase pid := by
  have hentry := tracedEntry_addEvent_of_rejected h
  show traced ((w.log ++ [dropEvent env w.log pid]) ++
    [addEvent env level w.log pid]) = _
  rw [traced_append_of_none hentry]
  exact traced_append_dropEvent_of_acceptsTracedDrops hdrops w.log pid

/-!
## Calls and answers in a list of events
-/

/-- The pids for which an add was sent, that is, trace_daemon was called. -/
def addedPids (events : List Event) : List Int :=
  events.filterMap fun
    | Event.service (Call.traceAdd pid _ _) _ => some pid
    | _ => none

def droppedPids (events : List Event) : List Int :=
  events.filterMap fun
    | Event.service (Call.traceDrop pid) _ => some pid
    | _ => none

/-- The pids in the arrays of the success answers. -/
def answeredPids (events : List Event) : List Int :=
  events.flatMap fun
    | Event.success (Payload.pids pids) _ => pids
    | _ => []

@[simp] theorem addedPids_append (a b : List Event) :
    addedPids (a ++ b) = addedPids a ++ addedPids b :=
  List.filterMap_append

@[simp] theorem droppedPids_append (a b : List Event) :
    droppedPids (a ++ b) = droppedPids a ++ droppedPids b :=
  List.filterMap_append

@[simp] theorem answeredPids_append (a b : List Event) :
    answeredPids (a ++ b) = answeredPids a ++ answeredPids b :=
  List.flatMap_append

end Supervisor
end XdsService
