import XdsService.Foundation.Runs
import XdsService.Supervisor.Trace

/-!
# The verbs of the plugin

`list`, `trace_start` and `trace_stop`.  The jump to the label `error` of
`trace_start` is the exception `Exit.gotoError`, caught at the label.
-/

namespace XdsService
namespace Supervisor

open Foundation

def errorCode : Int := -1

/-!
## list
-/

def listItem (d : Daemon) : ListItem where
  pid := d.pid
  name := d.name
  isServer := d.isServer
  isClient := d.isClient
  wsServers := d.wsServers
  wsClients := d.wsClients
  apis := d.apis

/-- The element for a daemon, `none` (NULL) where it could not be packed. -/
def packDaemon (lib : Libs) (d : Daemon) : Option ListItem :=
  if lib.packs (listItem d) then some (listItem d) else none

/-- `list`; the return code of `getDaemons` is ignored. -/
def list (lib : Libs) (env : Env) (apiname : Option String) :
    Handler Int := do
  let found <- getDaemons lib env apiname
  match found.2 with
  | none => do
      reqFail "Failed" "Error daemon list null"
      pure errorCode
  | some table => do
      reqSuccess (Payload.daemons (table.daemons.map (packDaemon lib))) none
      pure 0

/-!
## trace_start

The variables `pid`, `j_pids`, `ws_name` and `level` after unpacking: an absent
key leaves the initial value.  `ws_name` starts as the empty string and is never
NULL.
-/

structure TraceArgs where
  pid : Int
  pids : Json
  ws : String
  level : Option String

def TraceArgs.ofQuery (q : QueryArgs) : TraceArgs where
  pid := q.pid.getD (-1)
  pids := q.pids.getD Json.null
  ws := q.ws.getD ""
  level := q.level

def TraceArgs.Unset (a : TraceArgs) : Prop :=
  a.pid = -1 ∧ a.pids.isNull = true ∧ a.ws = ""

instance (a : TraceArgs) : Decidable a.Unset := by
  unfold TraceArgs.Unset
  infer_instance

structure Locals where
  nbTracedDaemons : Nat
  result : List Int

def outOfMemory : Handler Unit := do
  reqFail "failed" "out of memory"
  throw Exit.gotoError

def traceDaemonMacro (env : Env) (dd : Daemon) (level : Option String)
    (l : Locals) : Handler Locals := do
  let rc <- traceDaemon env (some dd) level
  if rc < 0 then do
    reqFail "failed"
      ("Trace pid " ++ toString dd.pid ++ " error " ++ toString rc)
    throw Exit.gotoError
  else
    pure ⟨l.nbTracedDaemons + 1, l.result ++ [dd.pid]⟩

def fillPids (lib : Libs) : Nat -> List Json -> Handler Unit
  | _, [] => pure ()
  | i, ppid :: rest => do
      writePid i (lib.getInt ppid)
      fillPids lib (i + 1) rest

/-- The record is filled from an array of pids before any matching. -/
def prefillRecord (lib : Libs) (env : Env) (a : TraceArgs) : Handler Unit :=
  match a.pids.items? with
  | none => pure ()
  | some items => do
      setTracePidsNum items.length
      let allocated <- mallocTracePids env items.length
      if allocated then fillPids lib 0 items else outOfMemory

/-- After a match of `pid`: the record becomes this pid alone. -/
def overwriteRecord (env : Env) (pid : Int) : Handler Unit := do
  setTracePidsNum 1
  let allocated <- mallocTracePids env 1
  if allocated then writePid 0 pid else outOfMemory

/-- After a match of `ws`: the pid is added to the record. -/
def appendRecord (env : Env) (pid : Int) : Handler Unit := do
  let w <- get
  setTracePidsNum (w.tracePidsNum + 1)
  let allocated <- reallocTracePids env (w.tracePidsNum + 1)
  if allocated then writePid w.tracePidsNum pid else outOfMemory

/-- The loop over the record that looks for the pid of one daemon. -/
def matchPids (env : Env) (level : Option String) (d : Daemon) (l : Locals) :
    Handler Locals := do
  let w <- get
  (List.range w.tracePidsNum).foldlM
    (fun l j => do
      let pid <- readPid j
      if pid = d.pid then traceDaemonMacro env d level l else pure l) l

/-- `wsn && strstr(wsn, ws_name) != NULL` for an element of a socket list. -/
def socketMatches (lib : Libs) (ws : String) (socket : Json) : Bool :=
  match lib.getString socket with
  | none => false
  | some wsn => strstr wsn ws

/-- The loop over `ws_servers` or `ws_clients`, left at the first match. -/
def scanSockets (lib : Libs) (env : Env) (a : TraceArgs) (d : Daemon) :
    List Json -> Locals -> Handler Locals
  | [], l => pure l
  | socket :: rest, l =>
      if socketMatches lib a.ws socket then do
        let l <- traceDaemonMacro env d a.level l
        appendRecord env d.pid
        pure l
      else
        scanSockets lib env a d rest l

def selectDaemons (lib : Libs) (env : Env) (a : TraceArgs) :
    List Daemon -> Locals -> Handler Locals
  | [], l => pure l
  | d :: rest, l =>
      if a.pid ≠ -1 ∧ a.pid = d.pid then do
        let l <- traceDaemonMacro env d a.level l
        overwriteRecord env d.pid
        pure l
      else if a.pids.isNull = false then do
        let l <- matchPids env a.level d l
        selectDaemons lib env a rest l
      else do
        let servers <- arrayItems d.wsServers
        let l <- scanSockets lib env a d servers l
        let clients <- arrayItems d.wsClients
        let l <- scanSockets lib env a d clients l
        selectDaemons lib env a rest l

def traceSelected (lib : Libs) (env : Env) (a : TraceArgs)
    (daemons : List Daemon) : Handler Int := do
  let l <- selectDaemons lib env a daemons ⟨0, []⟩
  if l.nbTracedDaemons = 0 then do
    reqFail "failed" "No daemon found match criteria"
    throw Exit.gotoError
  else do
    reqSuccess (Payload.pids l.result) (some "Trace successfully started")
    pure 0

def tableDaemons (table : Option DaemonTable) : List Daemon :=
  match table with
  | none => []
  | some table => table.daemons

/-- The test `daemons == NULL || daemons->count <= 0` and what follows it. -/
def traceFound (lib : Libs) (env : Env) (a : TraceArgs)
    (daemons : List Daemon) : Handler Int :=
  if daemons.isEmpty then do
    reqFail "failed" "No daemon found"
    throw Exit.gotoError
  else
    traceSelected lib env a daemons

/-- The part of `trace_start` that jumps to the label `error`. -/
def traceStartBody (lib : Libs) (env : Env) (apiname : Option String)
    (a : TraceArgs) : Handler Int := do
  prefillRecord lib env a
  let found <- getDaemons lib env apiname
  traceFound lib env a (tableDaemons found.2)

/-- The label `error` behind a body that may jump to it. -/
def withErrorLabel (body : Handler Int) : Handler Int := fun w =>
  match body w with
  | .error Exit.gotoError w' => .ok errorCode w'.clearRecord
  | .error (Exit.fault f) w' => .error (Exit.fault f) w'
  | .ok rc w' => .ok rc w'

def traceStartArgs (lib : Libs) (env : Env) (apiname : Option String)
    (a : TraceArgs) : Handler Int :=
  if a.Unset then do
    reqFail "failed" "one of pid or pids or ws parameter must be set"
    pure errorCode
  else do
    let w <- get
    if 0 < w.tracePidsNum then do
      reqFail "failed" "already tracing"
      pure errorCode
    else
      withErrorLabel (traceStartBody lib env apiname a)

def traceStart (lib : Libs) (env : Env) (apiname : Option String)
    (queryJ : Json) : Handler Int :=
  match lib.unpackQuery queryJ with
  | none => do
      reqFail "Failed" "Error processing arguments."
      pure errorCode
  | some q => traceStartArgs lib env apiname (TraceArgs.ofQuery q)

/-!
## trace_stop
-/

/-- The loop over the record; the number of rejected drops. -/
def dropRecorded (env : Env) : Handler Nat := do
  let w <- get
  (List.range w.tracePidsNum).foldlM
    (fun nbErr j => do
      let pid <- readPid j
      let rc <- traceDrop env pid
      pure (if rc < 0 then nbErr + 1 else nbErr)) 0

/-- `TracePidsNum = 0; TracePidsArr = NULL`, the block being freed -/
def releaseRecord : Handler Unit := fun w => .ok () w.clearRecord

def traceStop (env : Env) : Handler Int := do
  let w <- get
  if w.tracePidsNum = 0 then do
    reqFail "failed" "Trace already stopped"
    pure errorCode
  else do
    let nbErr <- dropRecorded env
    releaseRecord
    if nbErr ≠ 0 then do
      reqFail "failed"
        ("Error while stopping tracing (" ++ toString nbErr ++ ")")
      pure errorCode
    else do
      reqSuccess Payload.null (some "Trace successfully stopped")
      pure 0

/-!
## Requests

The API is created with noconcurrency, so that requests are served one after
another.
-/

inductive Request where
  | list
  | traceStart (queryJ : Json)
  | traceStop

def handle (lib : Libs) (env : Env) (apiname : Option String) :
    Request -> Handler Int
  | Request.list => list lib env apiname
  | Request.traceStart queryJ => traceStart lib env apiname queryJ
  | Request.traceStop => traceStop env

def Serves (lib : Libs) (env : Env) (apiname : Option String) (w : World)
    (request : Request) (rc : Int) (w' : World) : Prop :=
  (handle lib env apiname request).run w = .ok rc w'

def World.eventsSince (w w' : World) : List Event :=
  w'.log.drop w.log.length

theorem World.eventsSince_of_log {w w' : World} {events : List Event}
    (h : w'.log = w.log ++ events) : w.eventsSince w' = events := by
  simp [World.eventsSince, h]

/--
The daemon list that `trace_start` works on when it is called with the
arguments `a`, and the world in which it starts to search it.
-/
def ListsDaemons (lib : Libs) (env : Env) (apiname : Option String)
    (a : TraceArgs) (w : World) (daemons : List Daemon) (w' : World) : Prop :=
  exists found,
    (do prefillRecord lib env a; getDaemons lib env apiname : Handler _).run w =
      .ok found w' ∧ tableDaemons found.2 = daemons

@[simp] theorem run_releaseRecord (w : World) :
    releaseRecord.run w = .ok () w.clearRecord := rfl

@[simp] theorem run_outOfMemory (w : World) :
    outOfMemory.run w =
      .error Exit.gotoError (w.emit (Event.fail "failed" "out of memory")) :=
  rfl

end Supervisor
end XdsService
