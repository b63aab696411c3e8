import XdsService.Foundation.Blocks
import XdsService.Foundation.Ghost
import XdsService.Supervisor.Protocol

/-!
# The owner of the record's block

The handlers once more, with what they do to the block behind `TracePidsArr` as
an auxiliary state.  The functions that do not touch the record are taken over as
they are.  Erasing the auxiliary state gives the handlers back.
-/

namespace XdsService
namespace Supervisor

open Foundation
open Foundation.Blocks
open Foundation.Ghost
open Program

structure Ownership where
  ops : List BlockOp
  /-- the block that `TracePidsArr` points to, none for NULL -/
  pids : Option Nat

namespace Ownership

def initial : Ownership := ⟨[], none⟩

/-- `TracePidsArr = malloc(...)`, which gave a block or NULL -/
def malloc (allocated : Bool) (o : Ownership) : Ownership :=
  if allocated then
    ⟨o.ops ++ [BlockOp.grant o.ops.length], some o.ops.length⟩
  else
    ⟨o.ops, none⟩

/-- `TracePidsArr[k]` read or written -/
def use (o : Ownership) : Ownership :=
  match o.pids with
  | none => o
  | some block => ⟨o.ops ++ [BlockOp.use block], o.pids⟩

/-- `free(TracePidsArr)`, which does nothing for NULL -/
def free (o : Ownership) : Ownership :=
  match o.pids with
  | none => o
  | some block => ⟨o.ops ++ [BlockOp.free block], o.pids⟩

/-- `realloc(TracePidsArr, ...)`: a success gives a new block for the old one. -/
def realloc (allocated : Bool) (o : Ownership) : Ownership :=
  if allocated then o.free.malloc true else o

/-- `TracePidsArr = NULL` -/
def clear (o : Ownership) : Ownership := ⟨o.ops, none⟩

end Ownership

abbrev OwnedHandler (α : Type) : Type := EStateM Exit (World × Ownership) α

namespace Owned

/-!
## The record
-/

def readPid (k : Nat) : OwnedHandler Int := do
  ghost fun _ o => o.use
  lift (Supervisor.readPid k)

def writePid (k : Nat) (pid : Int) : OwnedHandler Unit := do
  ghost fun _ o => o.use
  lift (Supervisor.writePid k pid)

def mallocTracePids (env : Env) (n : Nat) : OwnedHandler Bool := do
  let allocated <- lift (Supervisor.mallocTracePids env n)
  ghost fun _ o => o.malloc allocated
  pure allocated

def reallocTracePids (env : Env) (n : Nat) : OwnedHandler Bool := do
  let allocated <- lift (Supervisor.reallocTracePids env n)
  ghost fun _ o => o.realloc allocated
  pure allocated

def fillPids (lib : Libs) : Nat -> List Json -> OwnedHandler Unit
  | _, [] => pure ()
  | i, ppid :: rest => do
      writePid i (lib.getInt ppid)
      fillPids lib (i + 1) rest

def prefillRecord (lib : Libs) (env : Env) (a : TraceArgs) :
    OwnedHandler Unit :=
  match a.pids.items? with
  | none => pure ()
  | some items => do
      lift (setTracePidsNum items.length)
      let allocated <- mallocTracePids env items.length
      if allocated then fillPids lib 0 items else lift outOfMemory

def overwriteRecord (env : Env) (pid : Int) : OwnedHandler Unit := do
  lift (setTracePidsNum 1)
  let allocated <- mallocTracePids env 1
  if allocated then writePid 0 pid else lift outOfMemory

def appendRecord (env : Env) (pid : Int) : OwnedHandler Unit := do
  let w <- lift get
  lift (setTracePidsNum (w.tracePidsNum + 1))
  let allocated <- reallocTracePids env (w.tracePidsNum + 1)
  if allocated then writePid w.tracePidsNum pid else lift outOfMemory

/--
`if (TracePidsNum > 0) free(TracePidsArr);` and then `TracePidsNum = 0;
TracePidsArr = NULL;`
-/
def releaseRecord : OwnedHandler Unit := do
  ghost fun w o => if 0 < w.tracePidsNum then o.free else o
  lift Supervisor.releaseRecord
  ghost fun _ o => o.clear

/-!
## trace_start
-/

def matchPids (env : Env) (level : Option String) (d : Daemon) (l : Locals) :
    OwnedHandler Locals := do
  let w <- lift get
  (List.range w.tracePidsNum).foldlM
    (fun l j => do
      let pid <- readPid j
      if pid = d.pid then
        lift (traceDaemonMacro env d level l)
      else
        pure l) l

def scanSockets (lib : Libs) (env : Env) (a : TraceArgs) (d : Daemon) :
    List Json -> Locals -> OwnedHandler Locals
  | [], l => pure l
  | socket :: rest, l =>
      if socketMatches lib a.ws socket then do
        let l <- lift (traceDaemonMacro env d a.level l)
        appendRecord env d.pid
        pure l
      else
        scanSockets lib env a d rest l

def selectDaemons (lib : Libs) (env : Env) (a : TraceArgs) :
    List Daemon -> Locals -> OwnedHandler Locals
  | [], l => pure l
  | d :: rest, l =>
      if a.pid ≠ -1 ∧ a.pid = d.pid then do
        let l <- lift (traceDaemonMacro env d a.level l)
        overwriteRecord env d.pid
        pure l
      else if a.pids.isNull = false then do
        let l <- matchPids env a.level d l
        selectDaemons lib env a rest l
      else do
        let servers <- lift (arrayItems d.wsServers)
        let l <- scanSockets lib env a d servers l
        let clients <- lift (arrayItems d.wsClients)
        let l <- scanSockets lib env a d clients l
        selectDaemons lib env a rest l

def traceSelected (lib : Libs) (env : Env) (a : TraceArgs)
    (daemons : List Daemon) : OwnedHandler Int := do
  let l <- selectDaemons lib env a daemons ⟨0, []⟩
  lift (if l.nbTracedDaemons = 0 then do
    reqFail "failed" "No daemon found match criteria"
    throw Exit.gotoError
  else do
    reqSuccess (Payload.pids l.result) (some "Trace successfully started")
    pure 0)

def traceFound (lib : Libs) (env : Env) (a : TraceArgs)
    (daemons : List Daemon) : OwnedHandler Int :=
  if daemons.isEmpty then
    lift (do
      reqFail "failed" "No daemon found"
      throw Exit.gotoError)
  else
    traceSelected lib env a daemons

def traceStartBody (lib : Libs) (env : Env) (apiname : Option String)
    (a : TraceArgs) : OwnedHandler Int := do
  prefillRecord lib env a
  let found <- lift (getDaemons lib env apiname)
  traceFound lib env a (tableDaemons found.2)

def atLabel : OwnedHandler Int := do
  releaseRecord
  pure errorCode

def withErrorLabel (body : OwnedHandler Int) : OwnedHandler Int := fun s =>
  match body s with
  | .error Exit.gotoError s' => atLabel s'
  | .error (Exit.fault f) s' => .error (Exit.fault f) s'
  | .ok rc s' => .ok rc s'

def traceStartArgs (lib : Libs) (env : Env) (apiname : Option String)
    (a : TraceArgs) : OwnedHandler Int :=
  if a.Unset then
    lift (do
      reqFail "failed" "one of pid or pids or ws parameter must be set"
      pure errorCode)
  else do
    let w <- lift get
    if 0 < w.tracePidsNum then
      lift (do
        reqFail "failed" "already tracing"
        pure errorCode)
    else
      withErrorLabel (traceStartBody lib env apiname a)

def traceStart (lib : Libs) (env : Env) (apiname : Option String)
    (queryJ : Json) : OwnedHandler Int :=
  match lib.unpackQuery queryJ with
  | none =>
      lift (do
        reqFail "Failed" "Error processing arguments."
        pure errorCode)
  | some q => traceStartArgs lib env apiname (TraceArgs.ofQuery q)

/-!
## trace_stop
-/

def dropRecorded (env : Env) : OwnedHandler Nat := do
  let w <- lift get
  (List.range w.tracePidsNum).foldlM
    (fun nbErr j => do
      let pid <- readPid j
      let rc <- lift (traceDrop env pid)
      pure (if rc < 0 then nbErr + 1 else nbErr)) 0

def traceStop (env : Env) : OwnedHandler Int := do
  let w <- lift get
  if w.tracePidsNum = 0 then
    lift (do
      reqFail "failed" "Trace already stopped"
      pure errorCode)
  else do
    let nbErr <- dropRecorded env
    releaseRecord
    lift (if nbErr ≠ 0 then do
      reqFail "failed"
        ("Error while stopping tracing (" ++ toString nbErr ++ ")")
      pure errorCode
    else do
      reqSuccess Payload.null (some "Trace successfully stopped")
      pure 0)

def handle (lib : Libs) (env : Env) (apiname : Option String) :
    Request -> OwnedHandler Int
  | Request.list => lift (list lib env apiname)
  | Request.traceStart queryJ => traceStart lib env apiname queryJ
  | Request.traceStop => traceStop env

def Serves (lib : Libs) (env : Env) (apiname : Option String)
    (s : World × Ownership) (request : Request) (rc : Int)
    (s' : World × Ownership) : Prop :=
  (handle lib env apiname request).run s = .ok rc s'

/-!
## Erasing
-/

section Erasing

variable {lib : Libs} {env : Env} {apiname : Option String}

theorem erases_readPid (k : Nat) : Erases (readPid k) (Supervisor.readPid k) :=
  erases_ghost_bind _ (erases_lift _)

theorem erases_writePid (k : Nat) (pid : Int) :
    Erases (writePid k pid) (Supervisor.writePid k pid) :=
  erases_ghost_bind _ (erases_lift _)

theorem erases_mallocTracePids (n : Nat) :
    Erases (mallocTracePids env n) (Supervisor.mallocTracePids env n) :=
  erases_bind_ghost (erases_lift _) _

theorem erases_reallocTracePids (n : Nat) :
    Erases (reallocTracePids env n) (Supervisor.reallocTracePids env n) :=
  erases_bind_ghost (erases_lift _) _

theorem erases_fillPids (items : List Json) (i : Nat) :
    Erases (fillPids lib i items) (Supervisor.fillPids lib i items) := by
  induction items generalizing i with
  | nil => exact erases_pure ()
  | cons ppid rest ih =>
      apply erases_bind
      · exact erases_writePid i (lib.getInt ppid)
      · intro _
        exact ih (i + 1)

theorem erases_prefillRecord (a : TraceArgs) :
    Erases (prefillRecord lib env a) (Supervisor.prefillRecord lib env a) := by
  unfold prefillRecord Supervisor.prefillRecord
  cases a.pids.items? with
  | none => exact erases_pure ()
  | some items =>
      apply erases_bind (erases_lift _)
      intro _
      apply erases_bind (erases_mallocTracePids items.length)
      intro allocated
      exact erases_ite (erases_fillPids items 0) (erases_lift _)

theorem erases_overwriteRecord (pid : Int) :
    Erases (overwriteRecord env pid) (Supervisor.overwriteRecord env pid) := by
  apply erases_bind (erases_lift _)
  intro _
  apply erases_bind (erases_mallocTracePids 1)
  intro allocated
  exact erases_ite (erases_writePid 0 pid) (erases_lift _)

theorem erases_appendRecord (pid : Int) :
    Erases (appendRecord env pid) (Supervisor.appendRecord env pid) := by
  apply erases_bind (erases_lift _)
  intro w
  apply erases_bind (erases_lift _)
  intro _
  apply erases_bind (erases_reallocTracePids (w.tracePidsNum + 1))
  intro allocated
  exact erases_ite (erases_writePid w.tracePidsNum pid) (erases_lift _)

theorem erases_releaseRecord :
    Erases releaseRecord Supervisor.releaseRecord := fun _ => rfl

theorem erases_matchPids (level : Option String) (d : Daemon) (l : Locals) :
    Erases (matchPids env level d l) (Supervisor.matchPids env level d l) := by
  apply erases_bind (erases_lift _)
  intro w
  apply erases_foldlM
  intro l j
  apply erases_bind (erases_readPid j)
  intro pid
  exact erases_ite (erases_lift _) (erases_pure l)

theorem erases_scanSockets (a : TraceArgs) (d : Daemon) (sockets : List Json)
    (l : Locals) :
    Erases (scanSockets lib env a d sockets l)
      (Supervisor.scanSockets lib env a d sockets l) := by
  induction sockets with
  | nil => exact erases_pure l
  | cons socket rest ih =>
      apply erases_ite
      · apply erases_bind (erases_lift _)
        intro l
        apply erases_bind (erases_appendRecord d.pid)
        intro _
        exact erases_pure l
      · exact ih

theorem erases_selectDaemons (a : TraceArgs) (daemons : List Daemon)
    (l : Locals) :
    Erases (selectDaemons lib env a daemons l)
      (Supervisor.selectDaemons lib env a daemons l) := by
  induction daemons generalizing l with
  | nil => exact erases_pure l
  | cons d rest ih =>
      apply erases_ite
      · apply erases_bind (erases_lift _)
        intro l
        apply erases_bind (erases_overwriteRecord d.pid)
        intro _
        exact erases_pure l
      · apply erases_ite
        · apply erases_bind (erases_matchPids a.level d l)
          intro l
          exact ih l
        · apply erases_bind (erases_lift _)
          intro servers
          apply erases_bind (erases_scanSockets a d servers l)
          intro l
          apply erases_bind (erases_lift _)
          intro clients
          apply erases_bind (erases_scanSockets a d clients l)
          intro l
          exact ih l

theorem erases_traceFound (a : TraceArgs) (daemons : List Daemon) :
    Erases (traceFound lib env a daemons)
      (Supervisor.traceFound lib env a daemons) := by
  apply erases_ite
  · exact erases_lift _
  · apply erases_bind (erases_selectDaemons a daemons _)
    intro l
    exact erases_lift _

theorem erases_traceStartBody (a : TraceArgs) :
    Erases (traceStartBody lib env apiname a)
      (Supervisor.traceStartBody lib env apiname a) := by
  apply erases_bind (erases_prefillRecord a)
  intro _
  apply erases_bind (erases_lift _)
  intro found
  exact erases_traceFound a _

theorem run_withErrorLabel_of_ok {body : OwnedHandler Int} {rc : Int}
    {s s' : World × Ownership} (h : body.run s = .ok rc s') :
    (withErrorLabel body).run s = .ok rc s' := by
  show withErrorLabel body s = _
  unfold withErrorLabel
  rw [show body s = _ from h]

theorem run_withErrorLabel_of_gotoError {body : OwnedHandler Int}
    {s s' : World × Ownership} (h : body.run s = .error Exit.gotoError s') :
    (withErrorLabel body).run s = atLabel.run s' := by
  show withErrorLabel body s = _
  unfold withErrorLabel
  rw [show body s = _ from h]
  rfl

theorem run_withErrorLabel_of_fault {body : OwnedHandler Int} {f : Fault}
    {s s' : World × Ownership} (h : body.run s = .error (Exit.fault f) s') :
    (withErrorLabel body).run s = .error (Exit.fault f) s' := by
  show withErrorLabel body s = _
  unfold withErrorLabel
  rw [show body s = _ from h]

theorem erases_withErrorLabel {body : OwnedHandler Int} {body' : Handler Int}
    (h : Erases body body') :
    Erases (withErrorLabel body) (Supervisor.withErrorLabel body') := by
  intro s
  cases hrun : body.run s with
  | ok rc s' =>
      rw [run_withErrorLabel_of_ok hrun,
        Supervisor.run_withErrorLabel_of_ok (h.of_ok hrun)]
      rfl
  | error e s' =>
      cases e with
      | gotoError =>
          rw [run_withErrorLabel_of_gotoError hrun,
            Supervisor.run_withErrorLabel_of_gotoError (h.of_error hrun)]
          rfl
      | fault f =>
          rw [run_withErrorLabel_of_fault hrun,
            Supervisor.run_withErrorLabel_of_fault (h.of_error hrun)]
          rfl

theorem erases_traceStart (queryJ : Json) :
    Erases (traceStart lib env apiname queryJ)
      (Supervisor.traceStart lib env apiname queryJ) := by
  unfold traceStart Supervisor.traceStart
  cases lib.unpackQuery queryJ with
  | none => exact erases_lift _
  | some q =>
      apply erases_ite (erases_lift _)
      apply erases_bind (erases_lift _)
      intro w
      apply erases_ite (erases_lift _)
      exact erases_withErrorLabel (erases_traceStartBody _)

theorem erases_dropRecorded :
    Erases (dropRecorded env) (Supervisor.dropRecorded env) := by
  apply erases_bind (erases_lift _)
  intro w
  apply erases_foldlM
  intro nbErr j
  apply erases_bind (erases_readPid j)
  intro pid
  apply erases_bind (erases_lift _)
  intro rc
  exact erases_pure _

theorem erases_traceStop : Erases (traceStop env) (Supervisor.traceStop env) := by
  apply erases_bind (erases_lift _)
  intro w
  apply erases_ite (erases_lift _)
  apply erases_bind erases_dropRecorded
  intro nbErr
  apply erases_bind erases_releaseRecord
  intro _
  exact erases_lift _

/-- Without the auxiliary state they are the handlers of the plugin. -/
theorem erases_handle (request : Request) :
    Erases (handle lib env apiname request)
      (Supervisor.handle lib env apiname request) := by
  cases request with
  | list => exact erases_lift _
  | traceStart queryJ => exact erases_traceStart queryJ
  | traceStop => exact erases_traceStop

end Erasing

end Owned
end Supervisor
end XdsService
