import XdsService.Supervisor.World

/-!
# Collecting the daemons

`getDaemons` asks the supervisor for the running daemons and calls
`decode_daemons_cb` for each of them, which fetches the config and the apis of
the daemon and stores it in the table.
-/

namespace XdsService
namespace Supervisor

open Foundation

/-- The fields of `decode_daemon_str` that the callback writes. -/
structure DecodeClosure where
  daemons : Option DaemonTable
  retCode : Int

/-- `null_str` where the name is null, its text otherwise. -/
def configName (lib : Libs) (name : Json) : Option String :=
  if name.isNull then some "null" else lib.getString name

def isIgnored (ignoredDaemon name : Option String) : Bool :=
  match ignoredDaemon, name with
  | some ignored, some name => strstr name ignored
  | _, _ => false

/-- `json_object_array_length`, undefined on anything else. -/
def arrayItems (j : Json) : Handler (List Json) :=
  match j.items? with
  | some items => pure items
  | none => fault Fault.notArray

/--
The part of the callback that reads the reply of the config call; `none` where
the callback returns because the config does not decode or names a daemon to be
left out.
-/
def decodeConfig (lib : Libs) (ignoredDaemon : Option String)
    (daemon : Daemon) (response : Json) : Handler (Option Daemon) :=
  match response.getEx "response" with
  | none => pure (some daemon)
  | some config =>
      match lib.unpackConfig config with
      | none => pure none
      | some parts =>
          if isIgnored ignoredDaemon (configName lib parts.name) then
            pure none
          else do
            let servers <- arrayItems parts.wsServers
            let clients <- arrayItems parts.wsClients
            pure (some
              { daemon with
                config := config
                name := configName lib parts.name
                wsServers := parts.wsServers
                isServer := decide (0 < servers.length)
                wsClients := parts.wsClients
                isClient := decide (0 < clients.length) })

/-- `json_object_object_del(j_apis, "monitor")` -/
def deleteMonitor (apis : Json) : Handler Json :=
  match apis with
  | Json.object members =>
      pure (Json.object (members.filter fun m => decide (m.1 ≠ "monitor")))
  | _ => fault Fault.notObject

/-- The part of the callback that reads the reply of the do call. -/
def decodeApis (daemon : Daemon) (response : Json) : Handler Daemon :=
  match (response.getEx "response").bind (Json.getEx "apis") with
  | none => pure daemon
  | some apis => do
      let kept <- deleteMonitor apis
      pure { daemon with apis := kept }

def storeDaemon (closure : DecodeClosure) (table : DaemonTable)
    (daemon : Daemon) : Handler DecodeClosure :=
  match table.push daemon with
  | some table => pure { closure with daemons := some table }
  | none => fault Fault.tableOverrun

/-- The calls `config` and `do` for one daemon, and what is stored of them. -/
def fetchDaemon (lib : Libs) (env : Env) (ignoredDaemon : Option String)
    (closure : DecodeClosure) (table : DaemonTable) (pid : Int) :
    Handler DecodeClosure := do
  let reply <- serviceSync env (Call.config pid)
  if reply.rc < 0 then
    pure { closure with retCode := reply.rc }
  else do
    let decoded <- decodeConfig lib ignoredDaemon
      { Daemon.zeroed with pid := pid } reply.response
    match decoded with
    | none => pure closure
    | some daemon => do
        let reply <- serviceSync env (Call.getApis pid)
        if reply.rc < 0 then
          pure closure
        else do
          let daemon <- decodeApis daemon reply.response
          storeDaemon closure table daemon

def decodeDaemonsCb (lib : Libs) (env : Env) (ignoredDaemon : Option String)
    (closure : DecodeClosure) (obj : Json) : Handler DecodeClosure := do
  let allocated <- allocate env Allocation.callocDaemon
  match closure.daemons with
  | none => pure closure
  | some table =>
      match lib.unpackCred obj with
      | none => pure closure
      | some pid =>
          if allocated then
            fetchDaemon lib env ignoredDaemon closure table pid
          else
            fault Fault.nullDaemon

/-- The values the list reply makes the callback run with. -/
def listedDaemons (lib : Libs) (response : Json) : List Json :=
  lib.objectForAll ((response.getEx "response").getD Json.null)

def collectDaemons (lib : Libs) (env : Env) (apiname : Option String)
    (daemons : Option DaemonTable) : Handler (Int × Option DaemonTable) := do
  let reply <- serviceSync env Call.discover
  if reply.rc < 0 then
    pure (reply.rc, daemons)
  else do
    let reply <- serviceSync env Call.list
    if reply.rc < 0 then
      pure (reply.rc, daemons)
    else do
      let closure <- (listedDaemons lib reply.response).foldlM
        (decodeDaemonsCb lib env apiname) ⟨daemons, reply.rc⟩
      pure (closure.retCode, closure.daemons)

/--
`getDaemons`: the return code and the table, `none` where it could not be
allocated.  `apiname` is the name of the API the handle belongs to.
-/
def getDaemons (lib : Libs) (env : Env) (apiname : Option String) :
    Handler (Int × Option DaemonTable) := do
  let allocated <- allocate env Allocation.callocDaemons
  collectDaemons lib env apiname
    (if allocated then some DaemonTable.empty else none)

/-!
## What collecting the daemons leaves alone

The whole collection only makes discovery calls and allocations: it touches
neither the record of the traced pids nor the traces, and answers no request.
-/

def Event.isDiscovery : Event -> Bool
  | alloc _ _ => true
  | service (Call.traceDrop _) _ => false
  | service (Call.traceAdd _ _ _) _ => false
  | service _ _ => true
  | _ => false

/-- The record is the same, and only discovery events were logged. -/
structure Quiet (w w' : World) : Prop where
  num : w'.tracePidsNum = w.tracePidsNum
  arr : w'.tracePidsArr = w.tracePidsArr
  log : exists events, w'.log = w.log ++ events ∧
    forall e, e ∈ events -> e.isDiscovery = true

instance : Std.Refl Quiet :=
  ⟨fun _ => ⟨rfl, rfl, [], by simp, by simp⟩⟩

instance : IsTrans World Quiet where
  trans := by
    intro a b c hab hbc
    rcases hab with ⟨hnum, harr, events, hlog, hall⟩
    rcases hbc with ⟨hnum', harr', events', hlog', hall'⟩
    refine ⟨hnum'.trans hnum, harr'.trans harr, events ++ events', ?_, ?_⟩
    · rw [hlog', hlog, List.append_assoc]
    · intro e he
      rcases List.mem_append.mp he with h | h
      · exact hall e h
      · exact hall' e h

def IsFault (e : Exit) : Prop := exists f, e = Exit.fault f

theorem quiet_emit (w : World) {e : Event} (he : e.isDiscovery = true) :
    Quiet w (w.emit e) :=
  ⟨rfl, rfl, [e], rfl, by simpa using he⟩

open Program

theorem quiet_allocate (env : Env) (what : Allocation) :
    Moves Quiet IsFault (allocate env what) where
  along := fun w => quiet_emit w rfl
  exits := fun hrun => by cases hrun

theorem quiet_serviceSync (env : Env) {call : Call}
    (hcall : forall reply, (Event.service call reply).isDiscovery = true) :
    Moves Quiet IsFault (serviceSync env call) where
  along := fun w => quiet_emit w (hcall _)
  exits := fun hrun => by cases hrun

theorem quiet_arrayItems (j : Json) : Moves Quiet IsFault (arrayItems j) := by
  unfold arrayItems
  cases j.items? with
  | none => exact moves_throw ⟨Fault.notArray, rfl⟩
  | some items => exact moves_pure items

theorem quiet_decodeConfig (lib : Libs) (ignoredDaemon : Option String)
    (daemon : Daemon) (response : Json) :
    Moves Quiet IsFault (decodeConfig lib ignoredDaemon daemon response) := by
  unfold decodeConfig
  cases response.getEx "response" with
  | none => exact moves_pure _
  | some config =>
      cases hparts : lib.unpackConfig config with
      | none =>
          simp only [hparts]
          exact moves_pure none
      | some parts =>
          simp only [hparts]
          refine moves_ite (moves_pure none) ?_
          refine moves_bind (quiet_arrayItems parts.wsServers) ?_
          intro servers
          refine moves_bind (quiet_arrayItems parts.wsClients) ?_
          intro clients
          exact moves_pure _

theorem quiet_decodeApis (daemon : Daemon) (response : Json) :
    Moves Quiet IsFault (decodeApis daemon response) := by
  unfold decodeApis
  cases (response.getEx "response").bind (Json.getEx "apis") with
  | none => exact moves_pure daemon
  | some apis =>
      have hdelete : Moves Quiet IsFault (deleteMonitor apis) := by
        cases apis with
        | object members => exact moves_pure _
        | _ => exact moves_throw ⟨Fault.notObject, rfl⟩
      exact moves_bind hdelete fun kept => moves_pure _

theorem quiet_storeDaemon (closure : DecodeClosure) (table : DaemonTable)
    (daemon : Daemon) : Moves Quiet IsFault (storeDaemon closure table daemon) := by
  unfold storeDaemon
  cases table.push daemon with
  | none => exact moves_throw ⟨Fault.tableOverrun, rfl⟩
  | some table => exact moves_pure _

theorem quiet_fetchDaemon (lib : Libs) (env : Env)
    (ignoredDaemon : Option String) (closure : DecodeClosure)
    (table : DaemonTable) (pid : Int) :
    Moves Quiet IsFault (fetchDaemon lib env ignoredDaemon closure table pid) := by
  unfold fetchDaemon
  refine moves_bind (quiet_serviceSync env fun _ => rfl) ?_
  intro reply
  refine moves_ite (moves_pure _) ?_
  refine moves_bind (quiet_decodeConfig lib ignoredDaemon _ reply.response) ?_
  intro decoded
  cases decoded with
  | none => exact moves_pure closure
  | some daemon =>
      refine moves_bind (quiet_serviceSync env fun _ => rfl) ?_
      intro reply
      refine moves_ite (moves_pure closure) ?_
      exact moves_bind (quiet_decodeApis daemon reply.response)
        fun stored => quiet_storeDaemon closure table stored

theorem quiet_decodeDaemonsCb (lib : Libs) (env : Env)
    (ignoredDaemon : Option String) (closure : DecodeClosure) (obj : Json) :
    Moves Quiet IsFault (decodeDaemonsCb lib env ignoredDaemon closure obj) := by
  unfold decodeDaemonsCb
  refine moves_bind (quiet_allocate env Allocation.callocDaemon) ?_
  intro allocated
  cases closure.daemons with
  | none => exact moves_pure closure
  | some table =>
      cases lib.unpackCred obj with
      | none => exact moves_pure closure
      | some pid =>
          exact moves_ite (quiet_fetchDaemon lib env ignoredDaemon _ table pid)
            (moves_throw ⟨Fault.nullDaemon, rfl⟩)

theorem quiet_collectDaemons (lib : Libs) (env : Env)
    (apiname : Option String) (daemons : Option DaemonTable) :
    Moves Quiet IsFault (collectDaemons lib env apiname daemons) := by
  unfold collectDaemons
  refine moves_bind (quiet_serviceSync env fun _ => rfl) ?_
  intro reply
  refine moves_ite (moves_pure _) ?_
  refine moves_bind (quiet_serviceSync env fun _ => rfl) ?_
  intro reply
  refine moves_ite (moves_pure _) ?_
  apply moves_bind
  · exact moves_foldlM (quiet_decodeDaemonsCb lib env apiname) _ _
  · intro closure
    exact moves_pure _

/-- Collecting the daemons is quiet, whatever the services answer. -/
theorem quiet_getDaemons (lib : Libs) (env : Env) (apiname : Option String) :
    Moves Quiet IsFault (getDaemons lib env apiname) :=
  moves_bind (quiet_allocate env Allocation.callocDaemons)
    fun _ => quiet_collectDaemons lib env apiname _

end Supervisor
end XdsService
