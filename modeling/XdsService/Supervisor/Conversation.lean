import XdsService.Foundation.Logs
import XdsService.Supervisor.Protocol

/-!
# What is said to the supervisor

A property of the log that everything but an add keeps, and that `trace_daemon`
keeps as a whole, is kept by every handler, also by one that leaves abruptly.
So adds follow drops of the same pid at any moment of any run.
-/

namespace XdsService
namespace Supervisor

open Foundation
open Foundation.Logs
open Program

variable {lib : Libs} {env : Env} {apiname : Option String}
variable {w w' : World} {R : World -> World -> Prop}

/-!
## Relations that the handlers respect
-/

def Event.isAdd : Event -> Bool
  | service (Call.traceAdd _ _ _) _ => true
  | _ => false

theorem isAdd_of_isDiscovery {e : Event} (h : e.isDiscovery = true) :
    e.isAdd = false := by
  cases e with
  | service call reply => cases call <;> first | rfl | cases h
  | _ => rfl

structure Respected (env : Env) (R : World -> World -> Prop) : Prop where
  record : forall w w' : World, w'.log = w.log -> R w w'
  emit : forall (w : World) (e : Event), e.isAdd = false -> R w (w.emit e)
  trace : forall (w : World) (level : Option String) (pid : Int),
    R w (w.afterTrace env level pid)

theorem Respected.moves_of_log (h : Respected env R) {α : Type}
    {m : Handler α} (hlog : forall w, (finalState (m.run w)).log = w.log) :
    Moves R AnyExit m where
  along := fun w => h.record _ _ (hlog w)
  exits := fun _ => trivial

theorem respected_readPid (h : Respected env R) (k : Nat) :
    Moves R AnyExit (readPid k) := by
  apply h.moves_of_log
  intro w
  have hrun : (readPid k).run w = readPid k w := rfl
  rw [hrun, readPid]
  split
  · rfl
  · rfl

theorem respected_writePid (h : Respected env R) (k : Nat) (pid : Int) :
    Moves R AnyExit (writePid k pid) := by
  apply h.moves_of_log
  intro w
  have hrun : (writePid k pid).run w = writePid k pid w := rfl
  rw [hrun, writePid]
  split
  · rfl
  · rfl

theorem respected_setTracePidsNum (h : Respected env R) (n : Nat) :
    Moves R AnyExit (setTracePidsNum n) :=
  h.moves_of_log fun _ => rfl

theorem respected_get (h : Respected env R) :
    Moves R AnyExit (get : Handler World) :=
  h.moves_of_log fun _ => rfl

section Handlers

variable [IsTrans World R]

theorem Respected.events (h : Respected env R) (w : World)
    {events : List Event} (hevents : forall e, e ∈ events -> e.isAdd = false) :
    R w { w with log := w.log ++ events } := by
  induction events using List.reverseRecOn with
  | nil =>
      apply h.record
      exact List.append_nil _
  | append_singleton events e ih =>
      have hbefore := ih fun other hmem => hevents other (by simp [hmem])
      have hlast := h.emit { w with log := w.log ++ events } e
        (hevents e (by simp))
      refine IsTrans.trans _ _ _ hbefore (IsTrans.trans _ _ _ hlast ?_)
      apply h.record
      exact (List.append_assoc _ _ _).symm

theorem Respected.quiet (h : Respected env R) (hquiet : Quiet w w') :
    R w w' := by
  rcases hquiet.log with ⟨events, hlog, hall⟩
  have hevents := h.events w fun e he => isAdd_of_isDiscovery (hall e he)
  exact IsTrans.trans _ _ _ hevents (h.record _ w' hlog)

theorem Respected.moves_of_quiet (h : Respected env R) {α : Type}
    {m : Handler α} (hquiet : Moves Quiet IsFault m) : Moves R AnyExit m :=
  hquiet.weaken h.quiet fun _ => trivial

theorem Respected.moves_of_emit (h : Respected env R) {α : Type}
    {m : Handler α} (hlog : forall w, exists e, e.isAdd = false ∧
      (finalState (m.run w)).log = w.log ++ [e]) : Moves R AnyExit m where
  along := by
    intro w
    rcases hlog w with ⟨e, he, hlogged⟩
    exact IsTrans.trans _ _ _ (h.emit w e he) (h.record _ _ hlogged)
  exits := fun _ => trivial

theorem respected_withErrorLabel (h : Respected env R) {body : Handler Int}
    (hbody : Moves R AnyExit body) : Moves R AnyExit (withErrorLabel body) where
  along := by
    intro w
    have hend := hbody.along w
    cases hrun : body.run w with
    | ok rc w' =>
        rw [hrun] at hend
        rw [run_withErrorLabel_of_ok hrun]
        exact hend
    | error x w' =>
        rw [hrun] at hend
        cases x with
        | gotoError =>
            rw [run_withErrorLabel_of_gotoError hrun]
            exact IsTrans.trans _ _ _ hend (h.record _ _ rfl)
        | fault f =>
            rw [run_withErrorLabel_of_fault hrun]
            exact hend
  exits := fun _ => trivial

theorem respected_reqFail (h : Respected env R) (status info : String) :
    Moves R AnyExit (reqFail status info) :=
  h.moves_of_emit fun _ => ⟨_, rfl, rfl⟩

theorem respected_reqSuccess (h : Respected env R) (payload : Payload)
    (info : Option String) : Moves R AnyExit (reqSuccess payload info) :=
  h.moves_of_emit fun _ => ⟨_, rfl, rfl⟩

theorem respected_mallocTracePids (h : Respected env R) (n : Nat) :
    Moves R AnyExit (mallocTracePids env n) :=
  h.moves_of_emit fun _ => ⟨_, rfl, rfl⟩

theorem respected_reallocTracePids (h : Respected env R) (n : Nat) :
    Moves R AnyExit (reallocTracePids env n) :=
  h.moves_of_emit fun _ => ⟨_, rfl, rfl⟩

theorem respected_arrayItems (h : Respected env R) (j : Json) :
    Moves R AnyExit (arrayItems j) :=
  h.moves_of_quiet (quiet_arrayItems j)

theorem respected_traceDrop (h : Respected env R) (pid : Int) :
    Moves R AnyExit (traceDrop env pid) :=
  h.moves_of_emit fun _ => ⟨_, rfl, rfl⟩

variable [Std.Refl R]

theorem respected_outOfMemory (h : Respected env R) :
    Moves R AnyExit outOfMemory :=
  moves_bind (respected_reqFail h _ _) fun _ => moves_throw trivial

theorem respected_traceDaemonMacro (h : Respected env R) (dd : Daemon)
    (level : Option String) (l : Locals) :
    Moves R AnyExit (traceDaemonMacro env dd level l) := by
  have htrace : Moves R AnyExit (traceDaemon env (some dd) level) := by
    constructor
    · intro w
      rw [run_traceDaemon]
      exact h.trace w level dd.pid
    · exact fun _ => trivial
  apply moves_bind htrace
  intro rc
  apply moves_ite
  · exact moves_bind (respected_reqFail h _ _) fun _ => moves_throw trivial
  · exact moves_pure _

theorem respected_fillPids (h : Respected env R) (k : Nat)
    (items : List Json) : Moves R AnyExit (fillPids lib k items) := by
  induction items generalizing k with
  | nil => exact moves_pure ()
  | cons item rest ih =>
      exact moves_bind (respected_writePid h k _) fun _ => ih (k + 1)

theorem respected_prefillRecord (h : Respected env R) (a : TraceArgs) :
    Moves R AnyExit (prefillRecord lib env a) := by
  unfold prefillRecord
  cases a.pids.items? with
  | none => exact moves_pure ()
  | some items =>
      apply moves_bind (respected_setTracePidsNum h _)
      intro _
      apply moves_bind (respected_mallocTracePids h _)
      intro allocated
      exact moves_ite (respected_fillPids h 0 items) (respected_outOfMemory h)

theorem respected_overwriteRecord (h : Respected env R) (pid : Int) :
    Moves R AnyExit (overwriteRecord env pid) := by
  apply moves_bind (respected_setTracePidsNum h _)
  intro _
  apply moves_bind (respected_mallocTracePids h _)
  intro allocated
  exact moves_ite (respected_writePid h 0 pid) (respected_outOfMemory h)

theorem respected_appendRecord (h : Respected env R) (pid : Int) :
    Moves R AnyExit (appendRecord env pid) := by
  apply moves_bind (respected_get h)
  intro w
  apply moves_bind (respected_setTracePidsNum h _)
  intro _
  apply moves_bind (respected_reallocTracePids h _)
  intro allocated
  exact moves_ite (respected_writePid h _ pid) (respected_outOfMemory h)

theorem respected_matchPids (h : Respected env R) (level : Option String)
    (d : Daemon) (l : Locals) : Moves R AnyExit (matchPids env level d l) := by
  apply moves_bind (respected_get h)
  intro w
  apply moves_foldlM
  intro l j
  apply moves_bind (respected_readPid h j)
  intro pid
  exact moves_ite (respected_traceDaemonMacro h d level l) (moves_pure l)

theorem respected_scanSockets (h : Respected env R) (a : TraceArgs)
    (d : Daemon) (sockets : List Json) (l : Locals) :
    Moves R AnyExit (scanSockets lib env a d sockets l) := by
  induction sockets with
  | nil => exact moves_pure l
  | cons socket rest ih =>
      apply moves_ite
      · apply moves_bind (respected_traceDaemonMacro h d a.level l)
        intro l
        exact moves_bind (respected_appendRecord h d.pid) fun _ => moves_pure l
      · exact ih

theorem respected_selectDaemons (h : Respected env R) (a : TraceArgs)
    (daemons : List Daemon) (l : Locals) :
    Moves R AnyExit (selectDaemons lib env a daemons l) := by
  induction daemons generalizing l with
  | nil => exact moves_pure l
  | cons d rest ih =>
      unfold selectDaemons
      apply moves_ite
      · apply moves_bind (respected_traceDaemonMacro h d a.level l)
        intro l
        exact moves_bind (respected_overwriteRecord h d.pid)
          fun _ => moves_pure l
      · apply moves_ite
        · exact moves_bind (respected_matchPids h a.level d l) fun l => ih l
        · apply moves_bind (respected_arrayItems h _)
          intro servers
          apply moves_bind (respected_scanSockets h a d servers l)
          intro l
          apply moves_bind (respected_arrayItems h _)
          intro clients
          exact moves_bind (respected_scanSockets h a d clients l) fun l => ih l

theorem respected_traceFound (h : Respected env R) (a : TraceArgs)
    (daemons : List Daemon) :
    Moves R AnyExit (traceFound lib env a daemons) := by
  apply moves_ite
  · exact moves_bind (respected_reqFail h _ _) fun _ => moves_throw trivial
  · apply moves_bind (respected_selectDaemons h a daemons _)
    intro l
    apply moves_ite
    · exact moves_bind (respected_reqFail h _ _) fun _ => moves_throw trivial
    · exact moves_bind (respected_reqSuccess h _ _) fun _ => moves_pure _

theorem respected_traceStart (h : Respected env R) (queryJ : Json) :
    Moves R AnyExit (traceStart lib env apiname queryJ) := by
  unfold traceStart
  cases lib.unpackQuery queryJ with
  | none => exact moves_bind (respected_reqFail h _ _) fun _ => moves_pure _
  | some q =>
      apply moves_ite
      · exact moves_bind (respected_reqFail h _ _) fun _ => moves_pure _
      · apply moves_bind (respected_get h)
        intro w
        apply moves_ite
        · exact moves_bind (respected_reqFail h _ _) fun _ => moves_pure _
        · apply respected_withErrorLabel h
          apply moves_bind (respected_prefillRecord h _)
          intro _
          apply moves_bind (h.moves_of_quiet (quiet_getDaemons lib env apiname))
          intro found
          exact respected_traceFound h _ _

theorem respected_traceStop (h : Respected env R) :
    Moves R AnyExit (traceStop env) := by
  apply moves_bind (respected_get h)
  intro w
  apply moves_ite
  · exact moves_bind (respected_reqFail h _ _) fun _ => moves_pure _
  · have hdrops : Moves R AnyExit (dropRecorded env) := by
      apply moves_bind (respected_get h)
      intro w
      apply moves_foldlM
      intro nbErr j
      apply moves_bind (respected_readPid h j)
      intro pid
      exact moves_bind (respected_traceDrop h pid) fun _ => moves_pure _
    apply moves_bind hdrops
    intro nbErr
    have hrelease : Moves R AnyExit releaseRecord :=
      h.moves_of_log fun _ => rfl
    apply moves_bind hrelease
    intro _
    apply moves_ite
    · exact moves_bind (respected_reqFail h _ _) fun _ => moves_pure _
    · exact moves_bind (respected_reqSuccess h _ _) fun _ => moves_pure _

theorem respected_list (h : Respected env R) :
    Moves R AnyExit (list lib env apiname) := by
  apply moves_bind (h.moves_of_quiet (quiet_getDaemons lib env apiname))
  intro found
  cases found.2 with
  | none => exact moves_bind (respected_reqFail h _ _) fun _ => moves_pure _
  | some table =>
      exact moves_bind (respected_reqSuccess h _ _) fun _ => moves_pure _

/-- Every handler respects the relation, however it ends. -/
theorem respected_handle (h : Respected env R) (request : Request) :
    Moves R AnyExit (handle lib env apiname request) := by
  cases request with
  | list => exact respected_list h
  | traceStart queryJ => exact respected_traceStart h queryJ
  | traceStop => exact respected_traceStop h

end Handlers

/-- The log of the second world goes on from that of the first. -/
def Extends (w w' : World) : Prop := w.log <+: w'.log

instance : Std.Refl Extends := ⟨fun w => List.prefix_refl w.log⟩

instance : IsTrans World Extends := ⟨fun _ _ _ hab hbc => hab.trans hbc⟩

theorem respected_extends (env : Env) : Respected env Extends where
  record := by
    intro w w' hlog
    unfold Extends
    rw [hlog]
  emit := fun w e _ => List.prefix_append w.log [e]
  trace := by
    intro w level pid
    unfold Extends
    rw [afterTrace_log]
    exact List.prefix_append w.log _

theorem prefix_handle (request : Request) (w : World) :
    w.log <+: (finalState ((handle lib env apiname request).run w)).log :=
  (respected_handle (respected_extends env) request).along w

/-!
## Rules for adds
-/

/-- The log obeys the rule as long as it did before. -/
def Keeps (rule : List Event -> Event -> Prop) (w w' : World) : Prop :=
  Obeys rule w.log -> Obeys rule w'.log

variable {rule : List Event -> Event -> Prop}

instance : Std.Refl (Keeps rule) := ⟨fun _ h => h⟩

instance : IsTrans World (Keeps rule) where
  trans := fun _ _ _ hab hbc h => hbc (hab h)

/-- The rule is about adds, and `trace_daemon` follows it. -/
structure AddRule (env : Env) (rule : List Event -> Event -> Prop) : Prop where
  free : forall (before : List Event) (e : Event),
    e.isAdd = false -> rule before e
  add : forall (log : List Event) (level : Option String) (pid : Int),
    rule (log ++ [dropEvent env log pid]) (addEvent env level log pid)

theorem AddRule.respected (h : AddRule env rule) :
    Respected env (Keeps rule) where
  record := by
    intro w w' hlog hw
    rw [hlog]
    exact hw
  emit := fun w e he hw => hw.snoc (h.free w.log e he)
  trace := by
    intro w level pid hw
    have hdropped := hw.snoc (h.free w.log (dropEvent env w.log pid) rfl)
    exact hdropped.snoc (h.add w.log level pid)

/-- Any moment of a run is the end of a request, or of a part of one. -/
theorem AddRule.obeys_of_run (h : AddRule env rule)
    {moves : List (Move World Request Int)}
    (hrun : Run (Serves lib env apiname) World.initial moves w)
    (request : Request) :
    Obeys rule (finalState ((handle lib env apiname request).run w)).log := by
  have hrespects : forall request,
      Moves (Keeps rule) AnyExit (handle lib env apiname request) :=
    fun request => respected_handle h.respected request
  have hbefore : Obeys rule w.log := by
    apply Run.invariant (I := fun w => Obeys rule w.log) obeys_nil _ hrun
    intro w request rc w' hw hserves
    exact (hrespects request).ok hserves hw
  exact (hrespects request).along w hbefore

/-- An add may only stand directly behind a drop of its pid. -/
def AfterDrop (before : List Event) (e : Event) : Prop :=
  forall pid requests events reply,
    e = Event.service (Call.traceAdd pid requests events) reply ->
      exists front reply',
        before = front ++ [Event.service (Call.traceDrop pid) reply']

theorem addRule_afterDrop (env : Env) : AddRule env AfterDrop where
  free := by
    intro before e he pid requests events reply heq
    rw [heq] at he
    cases he
  add := by
    intro log level pid other requests events reply heq
    cases heq
    exact ⟨log, _, rfl⟩

/-!
## Sets of traces
-/

/--
The trace sets that the supervisor holds for a pid: every accepted add makes one
more, and an accepted drop takes all away.
-/
def traceSets (pid : Int) (log : List Event) : Nat :=
  Ledger.tally pid (log.filterMap tracedEntry)

theorem traceSets_pos_iff {pid : Int} {log : List Event} :
    0 < traceSets pid log <-> pid ∈ traced log :=
  Ledger.tally_pos_iff

theorem traceSets_snoc_of_none {log : List Event} {e : Event}
    (h : tracedEntry e = none) (pid : Int) :
    traceSets pid (log ++ [e]) = traceSets pid log := by
  simp [traceSets, h]

theorem traceSets_snoc_of_some {log : List Event} {e : Event}
    {entry : Ledger.Entry Int} (h : tracedEntry e = some entry) (pid : Int) :
    traceSets pid (log ++ [e]) = entry.count pid (traceSets pid log) := by
  simp [traceSets, h, Ledger.tally_append_singleton]

/-- An accepted add finds no trace set of its pid. -/
def FindsNone (before : List Event) (e : Event) : Prop :=
  forall pid, tracedEntry e = some (Ledger.Entry.add pid) ->
    traceSets pid before = 0

theorem isAdd_of_tracedEntry {e : Event} {pid : Int}
    (h : tracedEntry e = some (Ledger.Entry.add pid)) : e.isAdd = true := by
  cases e with
  | service call reply =>
      cases call with
      | traceAdd p requests events => rfl
      | traceDrop p =>
          have hremove : (if reply.accepted then some (Ledger.Entry.remove p)
              else none) = some (Ledger.Entry.add pid) := h
          split at hremove
          · cases hremove
          · cases hremove
      | _ => cases h
  | _ => cases h

theorem pid_of_tracedEntry {level : Option String} {log : List Event}
    {pid other : Int}
    (h : tracedEntry (addEvent env level log pid) =
      some (Ledger.Entry.add other)) : other = pid := by
  have hadd : (if (addReply env level log pid).accepted then
      some (Ledger.Entry.add pid) else none) =
        some (Ledger.Entry.add other) := h
  split at hadd
  · cases hadd
    rfl
  · cases hadd

theorem addRule_findsNone (hdrops : AcceptsTracedDrops env) :
    AddRule env FindsNone where
  free := by
    intro before e he pid hentry
    rw [isAdd_of_tracedEntry hentry] at he
    cases he
  add := by
    intro log level pid other hentry
    rw [pid_of_tracedEntry hentry]
    have hgone : pid ∉ traced (log ++ [dropEvent env log pid]) := by
      rw [traced_append_dropEvent_of_acceptsTracedDrops hdrops]
      exact Finset.notMem_erase pid (traced log)
    exact Nat.eq_zero_of_not_pos fun hpos => hgone (traceSets_pos_iff.mp hpos)

theorem traceSets_le_one {log : List Event} (h : Obeys FindsNone log)
    (pid : Int) : traceSets pid log ≤ 1 := by
  apply h.induct (P := fun log => traceSets pid log ≤ 1)
  · exact Nat.zero_le 1
  · intro before e he hbefore
    cases hentry : tracedEntry e with
    | none =>
        rw [traceSets_snoc_of_none hentry]
        exact hbefore
    | some entry =>
        rw [traceSets_snoc_of_some hentry]
        cases entry with
        | add p =>
            show (if p = pid then _ else _) ≤ 1
            split
            · rename_i hp
              rw [hp] at hentry
              rw [he pid hentry]
            · exact hbefore
        | remove p =>
            show (if p = pid then _ else _) ≤ 1
            split
            · exact Nat.zero_le 1
            · exact hbefore

/-- Where traced pids are dropped, a pid has one trace set or is not traced. -/
theorem traceSets_eq_of_obeys {log : List Event} (h : Obeys FindsNone log)
    (pid : Int) :
    traceSets pid log = if pid ∈ traced log then 1 else 0 := by
  have hone := traceSets_le_one h pid
  split
  · rename_i htraced
    exact Nat.le_antisymm hone (traceSets_pos_iff.mpr htraced)
  · rename_i htraced
    exact Nat.eq_zero_of_not_pos fun hpos => htraced (traceSets_pos_iff.mp hpos)

/--
At any moment of any run, also within a request and where a handler leaves
abruptly, every add stands directly behind a drop of its pid; so a supervisor
that drops what is traced never holds two trace sets for a pid.
-/
theorem traced_once {moves : List (Move World Request Int)}
    (hrun : Run (Serves lib env apiname) World.initial moves w)
    (request : Request) {log : List Event}
    (hlog : log <+:
      (finalState ((handle lib env apiname request).run w)).log) :
    Obeys AfterDrop log ∧
      (AcceptsTracedDrops env -> forall pid,
        traceSets pid log = if pid ∈ traced log then 1 else 0) := by
  constructor
  · exact ((addRule_afterDrop env).obeys_of_run hrun request).upto hlog
  · intro hdrops pid
    have hobeys := (addRule_findsNone hdrops).obeys_of_run hrun request
    exact traceSets_eq_of_obeys (hobeys.upto hlog) pid

/-- A socket that two daemons share, by which the second is traced twice. -/
theorem traced_once_fleet :
    exists moves w, Run (Serves fleetLibs (fleetEnv pairFleet) (some "xds"))
        World.initial moves w ∧ moves.length = 1 ∧
      Obeys AfterDrop w.log ∧
      forall pid, traceSets pid w.log = if pid ∈ traced w.log then 1 else 0 := by
  have hserve : (serveAll fleetLibs (fleetEnv pairFleet) (some "xds")
      World.initial [Request.traceStart (wsQuery "unix")]).any
      (fun run => run.1.length = 1) = true := by
    decide +kernel
  rcases (Option.any_eq_true _ _).mp hserve with ⟨run, hrun, hlength⟩
  have hruns := run_of_serveAll hrun
  have honce := traced_once hruns Request.traceStop (prefix_handle _ run.2)
  exact ⟨run.1, run.2, hruns, of_decide_eq_true hlength, honce.left,
    honce.right (fleetEnv_rejectsExactlyUntraced pairFleet).acceptsTracedDrops⟩

end Supervisor
end XdsService
