import XdsService.Lua.TraceEvents

/-!
# The metric of an event

What one event makes `_trace_events_` write.  The write carries the event as
it came, but for a payload that does not count as true.
-/

namespace XdsService
namespace Lua

open Foundation
open Foundation.Program

def Effect.write? : Effect -> Option Query
  | Effect.service api verb query _ _ =>
      if api = "harvester" ∧ verb = "write" then some query else none
  | _ => none

def writes (binder : Binder) (event : List (Key × Value)) : List Query :=
  (finalState ((traceEvents binder event).run [])).filterMap Effect.write?

structure CarriesEvent (event : List (Key × Value)) (metric : Metric) :
    Prop where
  tag : metric.metadata.tag = Value.field event "tag"
  id : metric.values.id = Value.field event "id"
  time : metric.timestamp = Value.field event "time"
  data : forall data, Value.field event "data" = some data ->
    metric.values.data = some (toJson data) ∧
      metric.values.dataBytes = some (toJson data).utf8ByteSize

structure DescribesRequest (binder : Binder) (request : List (Key × Value))
    (metadata : Metadata) : Prop where
  type : metadata.type = some "request"
  api : metadata.api = Value.field request "api"
  verb : metadata.verb = Value.field request "verb"
  action : metadata.action = Value.field request "action"
  session : metadata.session = Value.field request "session"
  index : metadata.reqIndex =
    some (tostring binder (Value.field request "index"))

structure DescribesEvent (evt : List (Key × Value)) (metadata : Metadata) :
    Prop where
  type : metadata.type = some "event"
  id : metadata.id = Value.field evt "id"
  name : metadata.name = Value.field evt "name"
  action : metadata.action = Value.field evt "action"

def WritesOne (binder : Binder) (event : List (Key × Value))
    (Describes : Metadata -> Prop) : Prop :=
  exists query metric, writes binder event = [query] ∧
    query.metric = [metric] ∧ CarriesEvent event metric ∧
    Describes metric.metadata

/--
An event with a request table becomes one metric about the request, another
one with an event table becomes one about that, and any other becomes none.
-/
structure RecordsFaithfully (binder : Binder) (event : List (Key × Value)) :
    Prop where
  ofRequest : forall request,
    Value.field event "request" = some (Value.table request) ->
    WritesOne binder event (DescribesRequest binder request)
  ofEvent : Value.isTable (Value.field event "request") = false ->
    forall evt, Value.field event "event" = some (Value.table evt) ->
    WritesOne binder event (DescribesEvent evt)
  ofNeither : Value.isTable (Value.field event "request") = false ->
    Value.isTable (Value.field event "event") = false ->
    writes binder event = []

/-- The payload is not the value false. -/
def DataKept (event : List (Key × Value)) : Prop :=
  Value.field event "data" ≠ some (Value.leaf (Leaf.boolean false))

/--
No payload is false, nothing but a table stands in the place of the request of
an event with an event table, and no string in the place of either table.
-/
structure Recordable (event : List (Key × Value)) : Prop where
  ofRequest : Value.isTable (Value.field event "request") = true ->
    DataKept event
  ofEvent : Value.isTable (Value.field event "request") = false ->
    Value.isTable (Value.field event "event") = true ->
    Value.truthy (Value.field event "request") = false ∧ DataKept event
  ofNeither : Value.isTable (Value.field event "request") = false ->
    Value.isTable (Value.field event "event") = false ->
    Value.isString (Value.field event "request") = false ∧
      (Value.truthy (Value.field event "request") = false ->
        Value.isString (Value.field event "event") = false)

variable {binder : Binder} {event : List (Key × Value)}

/-!
## What is written
-/

/-- The payload that is sent: one that counts as true. -/
def sentData (event : List (Key × Value)) : Option Value :=
  (Value.field event "data").filter fun data => Value.truthy (some data)

def metricOf (event : List (Key × Value)) (metadata : Metadata) : Metric where
  name := "xds/supervisor/trace"
  metadata := metadata
  values :=
    { id := Value.field event "id"
      data := (sentData event).map toJson
      dataBytes := (sentData event).map fun data =>
        (toJson data).utf8ByteSize }
  timestamp := Value.field event "time"

def queryOf (event : List (Key × Value)) (metadata : Metadata) : Query where
  host := "localhost"
  port := 8086
  metric := [metricOf event metadata]

def requestMetadata (binder : Binder) (event request : List (Key × Value)) :
    Metadata where
  identity := "xds_supervisor"
  tag := Value.field event "tag"
  type := some "request"
  api := Value.field request "api"
  verb := Value.field request "verb"
  action := Value.field request "action"
  session := Value.field request "session"
  reqIndex := some (tostring binder (Value.field request "index"))
  id := none
  name := none

def eventMetadata (event evt : List (Key × Value)) : Metadata where
  identity := "xds_supervisor"
  tag := Value.field event "tag"
  type := some "event"
  api := none
  verb := none
  action := Value.field evt "action"
  session := none
  reqIndex := none
  id := Value.field evt "id"
  name := Value.field evt "name"

def queryWithout (event : List (Key × Value)) (metadata : Metadata) :
    Query :=
  (newQuery event).setMetadata fun _ => metadata

theorem setData_eq (metadata : Metadata) :
    setData event (queryWithout event metadata) = queryOf event metadata := by
  unfold setData queryOf metricOf sentData
  cases hdata : Value.field event "data" with
  | none => rfl
  | some data =>
      cases htruthy : Value.truthy (some data) with
      | false =>
          simp only [Option.filter, htruthy]
          rfl
      | true =>
          simp only [Option.filter, htruthy]
          rfl

theorem index_of_fields {value : Option Value}
    {entries : List (Key × Value)} (h : Value.fields? value = some entries)
    (name : String) : index value name = pure (Value.field entries name) := by
  unfold index
  rw [h]

theorem index_of_none {value : Option Value}
    (h : Value.fields? value = none) (name : String) :
    index value name = throw ⟨value, name⟩ := by
  unfold index
  rw [h]

theorem run_setRequest {request : List (Key × Value)}
    (h : Value.fields? (Value.field event "request") = some request)
    (effects : List Effect) :
    (setRequest binder event (newQuery event)).run effects =
      .ok (queryOf event (requestMetadata binder event request))
        (effects ++ [Effect.notice ">>> PROCESS request %s"
          (Argument.value (Value.field event "request"))]) := by
  rw [← setData_eq]
  simp only [setRequest, index_of_fields h]
  rfl

theorem run_setEvent {evt : List (Key × Value)}
    (h : Value.fields? (Value.field event "event") = some evt)
    (effects : List Effect) :
    (setEvent event (newQuery event)).run effects =
      .ok (queryOf event (eventMetadata event evt))
        (effects ++ [Effect.notice ">>> PROCESS event %s"
          (Argument.value (Value.field event "event"))]) := by
  rw [← setData_eq]
  simp only [setEvent, index_of_fields h]
  rfl

theorem write?_service (query : Query) :
    Effect.write? (Effect.service "harvester" "write" query "_trace_Async_CB"
      query) = some query := by
  simp [Effect.write?]

theorem run_writeQuery (query : Query) (effects : List Effect) :
    exists code later,
      (writeQuery binder query).run effects =
        .ok (some code) (effects ++ later) ∧
      later.filterMap Effect.write? = [query] := by
  let debug :=
    Effect.debug "CALL harvester write query=%s" (Argument.dumpQuery query)
  let service :=
    Effect.service "harvester" "write" query "_trace_Async_CB" query
  cases hanswer :
      Value.truthy (binder.service "harvester" "write" query).1 with
  | true =>
      let error := Effect.error
        "--LUA:_trace_events_ harvester write refuse response=%s"
        (Argument.value (binder.service "harvester" "write" query).2)
      exists 1, [debug, service, error]
      constructor
      · have hassoc : effects ++ [debug, service, error] =
            effects ++ [debug] ++ [service] ++ [error] := by simp
        simp only [writeQuery, hanswer, hassoc]
        rfl
      · simp only [List.filterMap_cons, write?_service, service]
        rfl
  | false =>
      exists 0, [debug, service]
      constructor
      · have hassoc : effects ++ [debug, service] =
            effects ++ [debug] ++ [service] := by simp
        simp only [writeQuery, hanswer, hassoc]
        rfl
      · simp only [List.filterMap_cons, write?_service, service]
        rfl

theorem filterMap_writeQuery (query : Query) (effects : List Effect) :
    (finalState ((writeQuery binder query).run effects)).filterMap
        Effect.write? =
      effects.filterMap Effect.write? ++ [query] := by
  rcases run_writeQuery query effects with ⟨code, later, hrun, hwritten⟩
  rw [hrun, finalState_ok, List.filterMap_append, hwritten]

theorem writes_of_request {request : List (Key × Value)}
    (htruthy : Value.truthy (Value.field event "request") = true)
    (h : Value.fields? (Value.field event "request") = some request) :
    writes binder event =
      [queryOf event (requestMetadata binder event request)] := by
  unfold writes traceEvents
  rw [if_pos htruthy, run_bind_of_ok (run_setRequest h []),
    filterMap_writeQuery]
  rfl

theorem writes_of_request_none
    (htruthy : Value.truthy (Value.field event "request") = true)
    (h : Value.fields? (Value.field event "request") = none) :
    writes binder event = [] := by
  unfold writes traceEvents
  rw [if_pos htruthy]
  simp only [setRequest, index_of_none h]
  rfl

theorem writes_of_event {evt : List (Key × Value)}
    (hrequest : Value.truthy (Value.field event "request") = false)
    (htruthy : Value.truthy (Value.field event "event") = true)
    (h : Value.fields? (Value.field event "event") = some evt) :
    writes binder event = [queryOf event (eventMetadata event evt)] := by
  unfold writes traceEvents
  rw [if_neg (Bool.eq_false_iff.mp hrequest), if_pos htruthy,
    run_bind_of_ok (run_setEvent h []), filterMap_writeQuery]
  rfl

theorem writes_of_event_none
    (hrequest : Value.truthy (Value.field event "request") = false)
    (htruthy : Value.truthy (Value.field event "event") = true)
    (h : Value.fields? (Value.field event "event") = none) :
    writes binder event = [] := by
  unfold writes traceEvents
  rw [if_neg (Bool.eq_false_iff.mp hrequest), if_pos htruthy]
  simp only [setEvent, index_of_none h]
  rfl

theorem writes_of_unknown
    (hrequest : Value.truthy (Value.field event "request") = false)
    (hevent : Value.truthy (Value.field event "event") = false) :
    writes binder event = [] := by
  unfold writes traceEvents
  rw [if_neg (Bool.eq_false_iff.mp hrequest),
    if_neg (Bool.eq_false_iff.mp hevent)]
  rfl

/-!
## What the write carries
-/

theorem carriesEvent_iff {metadata : Metadata}
    (htag : metadata.tag = Value.field event "tag") :
    CarriesEvent event (metricOf event metadata) <-> DataKept event := by
  constructor
  · intro h hfalse
    have hdata := (h.data _ hfalse).1
    simp only [metricOf, sentData, hfalse] at hdata
    cases hdata
  · intro h
    constructor
    · exact htag
    · rfl
    · rfl
    · intro data hdata
      have htruthy : Value.truthy (some data) = true :=
        Value.truthy_of_ne_false fun hfalse => h (hdata.trans (hfalse ▸ rfl))
      have hsent : sentData event = some data := by
        unfold sentData
        rw [hdata, Option.filter_some, htruthy]
        rfl
      simp only [metricOf, hsent]
      exact ⟨rfl, rfl⟩

theorem writesOne_iff {metadata : Metadata} {Describes : Metadata -> Prop}
    (hwrites : writes binder event = [queryOf event metadata])
    (htag : metadata.tag = Value.field event "tag") :
    WritesOne binder event Describes <->
      DataKept event ∧ Describes metadata := by
  constructor
  · intro h
    rcases h with ⟨query, metric, hquery, hmetric, hcarries, hdescribes⟩
    rw [hwrites] at hquery
    cases hquery
    cases hmetric
    exact ⟨(carriesEvent_iff htag).mp hcarries, hdescribes⟩
  · intro h
    exact ⟨_, _, hwrites, rfl, (carriesEvent_iff htag).mpr h.1, h.2⟩

theorem not_writesOne_of_nil {Describes : Metadata -> Prop}
    (hwrites : writes binder event = []) :
    ¬ WritesOne binder event Describes := by
  intro h
  rcases h with ⟨query, metric, hquery, _⟩
  rw [hwrites] at hquery
  cases hquery

theorem writesOne_request_iff {request : List (Key × Value)}
    (h : Value.field event "request" = some (Value.table request)) :
    WritesOne binder event (DescribesRequest binder request) <->
      DataKept event := by
  have htruthy : Value.truthy (Value.field event "request") = true := by
    rw [h]
    rfl
  have hfields :
      Value.fields? (Value.field event "request") = some request := by
    rw [h]
    rfl
  have hdescribes : DescribesRequest binder request
      (requestMetadata binder event request) :=
    ⟨rfl, rfl, rfl, rfl, rfl, rfl⟩
  rw [writesOne_iff (writes_of_request htruthy hfields) rfl]
  exact and_iff_left hdescribes

/-- Whatever counts as true in the place of the request hides the event table. -/
theorem writesOne_event_iff {evt : List (Key × Value)}
    (hrequest : Value.isTable (Value.field event "request") = false)
    (h : Value.field event "event" = some (Value.table evt)) :
    WritesOne binder event (DescribesEvent evt) <->
      Value.truthy (Value.field event "request") = false ∧
        DataKept event := by
  have htruthy : Value.truthy (Value.field event "event") = true := by
    rw [h]
    rfl
  have hfields : Value.fields? (Value.field event "event") = some evt := by
    rw [h]
    rfl
  cases hhidden : Value.truthy (Value.field event "request") with
  | false =>
      have hdescribes : DescribesEvent evt (eventMetadata event evt) :=
        ⟨rfl, rfl, rfl, rfl⟩
      rw [writesOne_iff (writes_of_event hhidden htruthy hfields) rfl,
        and_iff_left hdescribes]
      exact (and_iff_right rfl).symm
  | true =>
      apply iff_of_false
      · cases hstring : Value.isString (Value.field event "request") with
        | true =>
            have hwrites : writes binder event = _ :=
              writes_of_request hhidden (Value.string_fields hstring).2
            rw [writesOne_iff hwrites rfl]
            intro hboth
            have htype : some "request" = some "event" := hboth.2.type
            exact absurd htype (by decide)
        | false =>
            exact not_writesOne_of_nil (writes_of_request_none hhidden
              (Value.fields?_eq_none hrequest hstring))
      · intro hboth
        cases hboth.1

theorem writes_eq_nil_iff
    (hrequest : Value.isTable (Value.field event "request") = false)
    (hevent : Value.isTable (Value.field event "event") = false) :
    writes binder event = [] <->
      Value.isString (Value.field event "request") = false ∧
        (Value.truthy (Value.field event "request") = false ->
          Value.isString (Value.field event "event") = false) := by
  cases hrequestString : Value.isString (Value.field event "request") with
  | true =>
      rcases Value.string_fields hrequestString with ⟨htruthy, hfields⟩
      rw [writes_of_request htruthy hfields]
      exact iff_of_false (List.cons_ne_nil _ _) fun h => Bool.noConfusion h.1
  | false =>
      cases hhidden : Value.truthy (Value.field event "request") with
      | true =>
          exact iff_of_true
            (writes_of_request_none hhidden
              (Value.fields?_eq_none hrequest hrequestString))
            ⟨rfl, fun h => Bool.noConfusion h⟩
      | false =>
          cases hstring : Value.isString (Value.field event "event") with
          | true =>
              rcases Value.string_fields hstring with ⟨htruthy, hfields⟩
              rw [writes_of_event hhidden htruthy hfields]
              exact iff_of_false (List.cons_ne_nil _ _)
                fun h => Bool.noConfusion (h.2 rfl)
          | false =>
              have hfields := Value.fields?_eq_none hevent hstring
              have hnil : writes binder event = [] := by
                cases htruthy :
                    Value.truthy (Value.field event "event") with
                | true => exact writes_of_event_none hhidden htruthy hfields
                | false => exact writes_of_unknown hhidden htruthy
              exact iff_of_true hnil ⟨rfl, fun _ => rfl⟩

theorem records_faithfully_iff (binder : Binder)
    (event : List (Key × Value)) :
    RecordsFaithfully binder event <-> Recordable event := by
  constructor
  · intro h
    constructor
    · intro hrequest
      rcases Value.exists_table hrequest with ⟨request, htable⟩
      exact (writesOne_request_iff htable).mp (h.ofRequest request htable)
    · intro hrequest hevent
      rcases Value.exists_table hevent with ⟨evt, htable⟩
      exact (writesOne_event_iff hrequest htable).mp
        (h.ofEvent hrequest evt htable)
    · intro hrequest hevent
      exact (writes_eq_nil_iff hrequest hevent).mp
        (h.ofNeither hrequest hevent)
  · intro h
    constructor
    · intro request htable
      apply (writesOne_request_iff htable).mpr
      apply h.ofRequest
      rw [htable]
      rfl
    · intro hrequest evt htable
      apply (writesOne_event_iff hrequest htable).mpr
      apply h.ofEvent hrequest
      rw [htable]
      rfl
    · intro hrequest hevent
      exact (writes_eq_nil_iff hrequest hevent).mpr
        (h.ofNeither hrequest hevent)

/-- An event with a request whose payload is the value false. -/
def falsePayload : List (Key × Value) :=
  [(Key.string "request", Value.table []),
   (Key.string "data", Value.leaf (Leaf.boolean false))]

/-- The payload is not sent. -/
theorem false_payload_dropped :
    ¬ RecordsFaithfully
      { service := fun _ _ _ => (none, none)
        tableText := fun _ => "table" } falsePayload := by
  intro h
  rcases h.ofRequest [] rfl with ⟨query, metric, hwrites, hmetric, hcarries, _⟩
  have hdata := (hcarries.data (Value.leaf (Leaf.boolean false)) rfl).1
  rw [writes_of_request rfl rfl] at hwrites
  cases hwrites
  cases hmetric
  cases hdata

end Lua
end XdsService
