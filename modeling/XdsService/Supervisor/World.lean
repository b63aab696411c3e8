import XdsService.Foundation.Json
import XdsService.Foundation.Program
import XdsService.Foundation.Ledger

/-!
# The state of the binding and its environment

The supervisor plugin keeps one record of the traced pids between requests
(`TracePidsNum`, `TracePidsArr`) and otherwise lives off the replies of
the supervisor service.  The world below holds the record and the log of
everything the plugin did; the environment answers service calls and
allocations from that log, so that it can be any party with a memory.
-/

namespace XdsService
namespace Supervisor

open Foundation

/-!
## Leaving a function abruptly

`gotoError` is the jump to the label `error` of trace_start.  A fault
is a step whose effect C leaves undefined, and the model stops there: a write
through the NULL that calloc returned for a daemon, the length of a JSON value
that is no array, a deletion in one that is no object, a write behind the last
slot of the daemon table, and an access to a cell of `TracePidsArr` that
does not exist or was never written.
-/

inductive Fault where
  | nullDaemon
  | notArray
  | notObject
  | tableOverrun
  | tracePidsCell
deriving DecidableEq, Repr

inductive Exit where
  | gotoError
  | fault (f : Fault)
deriving DecidableEq, Repr

/-!
## Daemons
-/

structure Daemon where
  pid : Int
  name : Option String
  isServer : Bool
  isClient : Bool
  wsClients : Json
  wsServers : Json
  config : Json
  apis : Json

/-- The zeroed block that calloc returns. -/
def Daemon.zeroed : Daemon where
  pid := 0
  name := none
  isServer := false
  isClient := false
  wsClients := Json.null
  wsServers := Json.null
  config := Json.null
  apis := Json.null

structure Daemon.WellFormed (d : Daemon) : Prop where
  wsServers : d.wsServers.isArray = true
  wsClients : d.wsClients.isArray = true

def maxDaemons : Nat := 1024

/-- `DAEMONS_T`: the slots in use; `count` is their number. -/
structure DaemonTable where
  daemons : List Daemon
  count_le : daemons.length ≤ maxDaemons

def DaemonTable.empty : DaemonTable := ⟨[], by simp⟩

def DaemonTable.count (table : DaemonTable) : Nat := table.daemons.length

def DaemonTable.push (table : DaemonTable) (daemon : Daemon) :
    Option DaemonTable :=
  if h : table.count < maxDaemons then
    some ⟨table.daemons ++ [daemon], by
      rw [List.length_append]
      exact h⟩
  else
    none

theorem DaemonTable.daemons_of_push {table table' : DaemonTable} {d : Daemon}
    (h : table.push d = some table') :
    table'.daemons = table.daemons ++ [d] := by
  unfold DaemonTable.push at h
  split at h
  · cases h
    rfl
  · cases h

/-!
## Calls to the supervisor service
-/

def xdsTagRequest : String := "xds:trace/request"

def xdsTagEvent : String := "xds:trace/event"

def xdsTraceName : String := "xds-trace"

inductive Call where
  | discover
  | list
  | config (pid : Int)
  | getApis (pid : Int)
  | traceDrop (pid : Int)
  | traceAdd (pid : Int) (requests events : List String)
deriving DecidableEq, Repr

namespace Call

def verb : Call -> String
  | discover => "discover"
  | list => "list"
  | config _ => "config"
  | getApis _ => "do"
  | traceDrop _ => "trace"
  | traceAdd _ _ _ => "trace"

/-- One element of the array of an add. -/
def traceItem (tag key : String) (levels : List String) : Json :=
  Json.object [("tag", Json.string tag), ("name", Json.string xdsTraceName),
    (key, Json.array (levels.map Json.string))]

/-- The query that `wrap_json_pack` builds. -/
def query : Call -> Json
  | discover => Json.null
  | list => Json.null
  | config pid => Json.object [("pid", Json.int pid)]
  | getApis pid =>
      Json.object [("pid", Json.int pid), ("api", Json.string "monitor"),
        ("verb", Json.string "get"),
        ("args", Json.object [("apis", Json.bool true)])]
  | traceDrop pid =>
      Json.object [("pid", Json.int pid),
        ("drop", Json.object [("tag", Json.array
          [Json.string xdsTagRequest, Json.string xdsTagEvent])])]
  | traceAdd pid requests events =>
      Json.object [("pid", Json.int pid),
        ("add", Json.array
          [traceItem xdsTagRequest "request" requests,
            traceItem xdsTagEvent "event" events])]

theorem map_string_injective : Function.Injective (List.map Json.string) :=
  List.map_injective_iff.mpr (fun _ _ h => by injection h)

/-- The supervisor can tell any two calls apart. -/
theorem eq_of_verb_query {c c' : Call} (hverb : c.verb = c'.verb)
    (hquery : c.query = c'.query) : c = c' := by
  cases c <;> cases c' <;>
    simp_all [verb, query, traceItem, map_string_injective.eq_iff]

end Call

structure Reply where
  rc : Int
  response : Json

def Reply.accepted (reply : Reply) : Bool := decide (0 ≤ reply.rc)

/-!
## Events
-/

inductive Allocation where
  | callocDaemons
  | callocDaemon
  | mallocPids (cells : Nat)
  | reallocPids (cells : Nat)
deriving DecidableEq, Repr

structure ListItem where
  pid : Int
  name : Option String
  isServer : Bool
  isClient : Bool
  wsServers : Json
  wsClients : Json
  apis : Json

inductive Payload where
  | null
  | pids (pids : List Int)
  | daemons (items : List (Option ListItem))

inductive Event where
  | service (call : Call) (reply : Reply)
  | alloc (what : Allocation) (succeeded : Bool)
  | success (payload : Payload) (info : Option String)
  | fail (status info : String)

def Event.isAnswer : Event -> Bool
  | success _ _ => true
  | fail _ _ => true
  | _ => false

def Event.isSuccess : Event -> Bool
  | success _ _ => true
  | _ => false

/-!
## Environment and libraries
-/

/-- How service calls and allocations turn out, given all that happened. -/
structure Env where
  service : List Event -> Call -> Reply
  alloc : List Event -> Allocation -> Bool

/-- The variables that trace_start unpacks; `none` where the key is absent. -/
structure QueryArgs where
  pid : Option Int
  pids : Option Json
  ws : Option String
  level : Option String

structure ConfigParts where
  name : Json
  wsServers : Json
  wsClients : Json

/--
What the plugin uses of json-c and wrap-json, whose sources are not in the
repository.  The unpack functions stand for `wrap_json_unpack` at one
format each and return `none` where it reports an error.
-/
structure Libs where
  /-- the format `{s:?i s:?o s:?s s:?s}` with pid, pids, ws, level -/
  unpackQuery : Json -> Option QueryArgs
  /-- the format `{si si si ss ss ss}`, of which the pid is used -/
  unpackCred : Json -> Option Int
  /-- the format `{s:o s:o s:o}` with name, ws_servers, ws_clients -/
  unpackConfig : Json -> Option ConfigParts
  /-- the values `wrap_json_object_for_all` calls the callback with -/
  objectForAll : Json -> List Json
  getInt : Json -> Int
  /-- `json_object_get_string`, `none` for NULL -/
  getString : Json -> Option String
  /-- `wrap_json_pack` at the format `{si ss sb sb so so so}` succeeds -/
  packs : ListItem -> Bool

/-!
## The world
-/

structure World where
  tracePidsNum : Nat
  /-- `TracePidsArr`: NULL, or the cells of the block, none if unwritten -/
  tracePidsArr : Option (List (Option Int))
  log : List Event

namespace World

def initial : World := ⟨0, none, []⟩

def emit (w : World) (e : Event) : World := { w with log := w.log ++ [e] }

def cells (w : World) : List (Option Int) := w.tracePidsArr.getD []

def clearRecord (w : World) : World :=
  { w with tracePidsNum := 0, tracePidsArr := none }

/-- No session: the counter is zero and the pointer is NULL. -/
structure Idle (w : World) : Prop where
  num : w.tracePidsNum = 0
  arr : w.tracePidsArr = none

/-- `TracePidsArr[0 .. TracePidsNum)` holds the pids `ps`. -/
structure RecordIs (w : World) (ps : List Int) : Prop where
  num : w.tracePidsNum = ps.length
  held : ps.map some <+: w.cells

@[simp] theorem emit_tracePidsNum (w : World) (e : Event) :
    (w.emit e).tracePidsNum = w.tracePidsNum := rfl

@[simp] theorem emit_tracePidsArr (w : World) (e : Event) :
    (w.emit e).tracePidsArr = w.tracePidsArr := rfl

@[simp] theorem emit_cells (w : World) (e : Event) :
    (w.emit e).cells = w.cells := rfl

@[simp] theorem emit_log (w : World) (e : Event) :
    (w.emit e).log = w.log ++ [e] := rfl

@[simp] theorem clearRecord_log (w : World) : w.clearRecord.log = w.log := rfl

theorem clearRecord_idle (w : World) : w.clearRecord.Idle := ⟨rfl, rfl⟩

theorem initial_idle : initial.Idle := ⟨rfl, rfl⟩

theorem Idle.emit {w : World} (h : w.Idle) (e : Event) : (w.emit e).Idle :=
  ⟨h.num, h.arr⟩

theorem RecordIs.emit {w : World} {ps : List Int} (h : w.RecordIs ps)
    (e : Event) : (w.emit e).RecordIs ps :=
  ⟨h.num, h.held⟩

theorem Idle.recordIs {w : World} (h : w.Idle) : w.RecordIs [] :=
  ⟨h.num, List.nil_prefix⟩

theorem RecordIs.cell {w : World} {ps : List Int} (h : w.RecordIs ps)
    {k : Nat} (hk : k < ps.length) : w.cells[k]? = some (some ps[k]) := by
  rcases h.held with ⟨rest, hrest⟩
  rw [← hrest, List.getElem?_append_left (by simpa using hk)]
  simp [hk]

end World

/-!
## Elementary programs
-/

abbrev Handler (α : Type) : Type := EStateM Exit World α

def serviceSync (env : Env) (call : Call) : Handler Reply := fun w =>
  let reply := env.service w.log call
  .ok reply (w.emit (Event.service call reply))

/-- An allocation other than that of TracePidsArr; false stands for NULL. -/
def allocate (env : Env) (what : Allocation) : Handler Bool := fun w =>
  let succeeded := env.alloc w.log what
  .ok succeeded (w.emit (Event.alloc what succeeded))

def reqFail (status info : String) : Handler Unit := fun w =>
  .ok () (w.emit (Event.fail status info))

def reqSuccess (payload : Payload) (info : Option String) : Handler Unit :=
  fun w => .ok () (w.emit (Event.success payload info))

def fault {α : Type} (f : Fault) : Handler α := throw (Exit.fault f)

def setTracePidsNum (n : Nat) : Handler Unit := fun w =>
  .ok () { w with tracePidsNum := n }

def mallocTracePids (env : Env) (n : Nat) : Handler Bool := fun w =>
  let succeeded := env.alloc w.log (Allocation.mallocPids n)
  let arr := if succeeded then some (List.replicate n none) else none
  .ok succeeded
    { w.emit (Event.alloc (Allocation.mallocPids n) succeeded) with
      tracePidsArr := arr }

/--
`tmpPtr = realloc(TracePidsArr, sizeof(int) * n)`, stored back if it is not
NULL: the old cells are kept as far as they fit.
-/
def reallocTracePids (env : Env) (n : Nat) : Handler Bool := fun w =>
  let succeeded := env.alloc w.log (Allocation.reallocPids n)
  let arr :=
    if succeeded then
      some (w.cells.take n ++ List.replicate (n - w.cells.length) none)
    else
      w.tracePidsArr
  .ok succeeded
    { w.emit (Event.alloc (Allocation.reallocPids n) succeeded) with
      tracePidsArr := arr }

def readPid (k : Nat) : Handler Int := fun w =>
  match w.cells[k]? with
  | some (some pid) => .ok pid w
  | _ => .error (Exit.fault Fault.tracePidsCell) w

def writePid (k : Nat) (pid : Int) : Handler Unit := fun w =>
  if k < w.cells.length then
    .ok () { w with tracePidsArr := some (w.cells.set k (some pid)) }
  else
    .error (Exit.fault Fault.tracePidsCell) w

section Run

variable (env : Env) (w : World)

@[simp] theorem run_serviceSync (call : Call) :
    (serviceSync env call).run w =
      .ok (env.service w.log call)
        (w.emit (Event.service call (env.service w.log call))) := rfl

@[simp] theorem run_allocate (what : Allocation) :
    (allocate env what).run w =
      .ok (env.alloc w.log what)
        (w.emit (Event.alloc what (env.alloc w.log what))) := rfl

@[simp] theorem run_reqFail (status info : String) :
    (reqFail status info).run w = .ok () (w.emit (Event.fail status info)) :=
  rfl

@[simp] theorem run_reqSuccess (payload : Payload) (info : Option String) :
    (reqSuccess payload info).run w =
      .ok () (w.emit (Event.success payload info)) := rfl

@[simp] theorem run_fault {α : Type} (f : Fault) :
    (fault f : Handler α).run w = .error (Exit.fault f) w := rfl

@[simp] theorem run_setTracePidsNum (n : Nat) :
    (setTracePidsNum n).run w = .ok () { w with tracePidsNum := n } := rfl

variable {w}

theorem run_readPid {ps : List Int} (h : w.RecordIs ps) {k : Nat}
    (hk : k < ps.length) : (readPid k).run w = .ok ps[k] w := by
  show readPid k w = _
  unfold readPid
  rw [h.cell hk]

end Run

end Supervisor
end XdsService
