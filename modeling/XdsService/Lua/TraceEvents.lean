import XdsService.Foundation.Program
import XdsService.Lua.ToJson

/-!
# Trace events

Every trace event becomes a metric that is written to the harvester.  The
parts of an event are tested by whether they count as true, which a payload
that is the value false does not.
-/

namespace XdsService
namespace Lua

open Foundation
open Foundation.Program

/-!
## The query
-/

structure Metadata where
  identity : String
  tag : Option Value
  type : Option String
  api : Option Value
  verb : Option Value
  action : Option Value
  session : Option Value
  reqIndex : Option String
  id : Option Value
  name : Option Value

structure Values where
  id : Option Value
  data : Option String
  dataBytes : Option Nat

structure Metric where
  name : String
  metadata : Metadata
  values : Values
  timestamp : Option Value

structure Query where
  host : String
  port : Nat
  metric : List Metric

def Query.setMetadata (query : Query) (set : Metadata -> Metadata) : Query :=
  { query with
    metric := query.metric.modify 0 fun metric =>
      { metric with metadata := set metric.metadata } }

def Query.setValues (query : Query) (set : Values -> Values) : Query :=
  { query with
    metric := query.metric.modify 0 fun metric =>
      { metric with values := set metric.values } }

/-!
## The program
-/

/-- What a message is about: a value, or what `Dump_Table` makes of one. -/
inductive Argument where
  | value (value : Option Value)
  | dumpTable (entries : List (Key × Value))
  | dumpQuery (query : Query)

inductive Effect where
  | notice (format : String) (argument : Argument)
  | warning (format : String) (argument : Argument)
  | debug (format : String) (argument : Argument)
  | error (format : String) (argument : Argument)
  | service (api verb : String) (query : Query) (callback : String)
      (context : Query)

/-- The error that ends a program: a value without fields was indexed. -/
structure IndexError where
  value : Option Value
  name : String

/-- The results of `AFB:service` and the text of a table, which is an address. -/
structure Binder where
  service : String -> String -> Query -> Option Value × Option Value
  tableText : List (Key × Value) -> String

abbrev LuaProgram := EStateM IndexError (List Effect)

def emit (effect : Effect) : LuaProgram Unit :=
  modify fun effects => effects ++ [effect]

def index (value : Option Value) (name : String) : LuaProgram (Option Value) :=
  match Value.fields? value with
  | some entries => pure (Value.field entries name)
  | none => throw ⟨value, name⟩

def tostring (binder : Binder) : Option Value -> String
  | none => "nil"
  | some (Value.leaf leaf) => leaf.tostring
  | some (Value.table entries) => binder.tableText entries

/-!
## The source
-/

def newQuery (event : List (Key × Value)) : Query where
  host := "localhost"
  port := 8086
  metric :=
    [{ name := "xds/supervisor/trace"
       metadata :=
        { identity := "xds_supervisor"
          tag := Value.field event "tag"
          type := none
          api := none
          verb := none
          action := none
          session := none
          reqIndex := none
          id := none
          name := none }
       values :=
        { id := Value.field event "id"
          data := none
          dataBytes := none }
       timestamp := Value.field event "time" }]

/-- The lines that both branches have for `event.data`. -/
def setData (event : List (Key × Value)) (query : Query) : Query :=
  match Value.field event "data" with
  | some data =>
      if Value.truthy (some data) then
        (query.setValues fun values =>
          { values with data := some (toJson data) }).setValues fun values =>
            { values with dataBytes := some (toJson data).utf8ByteSize }
      else query
  | none => query

def setRequest (binder : Binder) (event : List (Key × Value))
    (query : Query) : LuaProgram Query := do
  let request := Value.field event "request"
  emit (Effect.notice ">>> PROCESS request %s" (Argument.value request))
  let query := query.setMetadata fun m => { m with type := some "request" }
  let api <- index request "api"
  let query := query.setMetadata fun m => { m with api := api }
  let verb <- index request "verb"
  let query := query.setMetadata fun m => { m with verb := verb }
  let action <- index request "action"
  let query := query.setMetadata fun m => { m with action := action }
  let session <- index request "session"
  let query := query.setMetadata fun m => { m with session := session }
  let reqIndex <- index request "index"
  let query := query.setMetadata fun m =>
    { m with reqIndex := some (tostring binder reqIndex) }
  pure (setData event query)

def setEvent (event : List (Key × Value)) (query : Query) :
    LuaProgram Query := do
  let evt := Value.field event "event"
  emit (Effect.notice ">>> PROCESS event %s" (Argument.value evt))
  let query := query.setMetadata fun m => { m with type := some "event" }
  let id <- index evt "id"
  let query := query.setMetadata fun m => { m with id := id }
  let name <- index evt "name"
  let query := query.setMetadata fun m => { m with name := name }
  let action <- index evt "action"
  let query := query.setMetadata fun m => { m with action := action }
  pure (setData event query)

/-- The end of `_trace_events_`, behind its branches. -/
def writeQuery (binder : Binder) (query : Query) :
    LuaProgram (Option Int) := do
  emit (Effect.debug "CALL harvester write query=%s" (Argument.dumpQuery query))
  emit (Effect.service "harvester" "write" query "_trace_Async_CB" query)
  let answer := binder.service "harvester" "write" query
  if Value.truthy answer.1 then do
    emit (Effect.error
      "--LUA:_trace_events_ harvester write refuse response=%s"
      (Argument.value answer.2))
    pure (some 1)
  else
    pure (some 0)

/-- `_trace_events_`; its source is only handed on, its args are not read. -/
def traceEvents (binder : Binder) (event : List (Key × Value)) :
    LuaProgram (Option Int) :=
  if Value.truthy (Value.field event "request") then do
    let query <- setRequest binder event (newQuery event)
    writeQuery binder query
  else if Value.truthy (Value.field event "event") then do
    let query <- setEvent event (newQuery event)
    writeQuery binder query
  else do
    emit (Effect.warning
      "--InLua-- UNKNOWN _trace_events_ event type: %s\n"
      (Argument.dumpTable event))
    pure none

end Lua
end XdsService
