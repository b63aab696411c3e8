import XdsService.Supervisor.Session

/-!
# A faithful supervisor

The environment so far may answer anything.  The one below is a supervisor as
the plugin expects it, over a fixed fleet of daemons: it lists them, accepts
every add, and rejects a drop exactly when the daemon carries no trace.
-/

namespace XdsService
namespace Supervisor

open Foundation

structure Member where
  pid : Int
  name : String
  servers : List String
  clients : List String

def Member.entry (m : Member) : String × Json :=
  (m.name, Json.object [("pid", Json.int m.pid)])

def Member.config (m : Member) : Json :=
  Json.object [("name", Json.string m.name),
    ("ws_servers", Json.array (m.servers.map Json.string)),
    ("ws_clients", Json.array (m.clients.map Json.string))]

def respond (response : Json) : Reply :=
  ⟨0, Json.object [("response", response)]⟩

def rejection : Reply := ⟨-1, Json.null⟩

def fleetService (fleet : List Member) (log : List Event) : Call -> Reply
  | Call.discover => respond Json.null
  | Call.list => respond (Json.object (fleet.map Member.entry))
  | Call.config pid =>
      match fleet.find? fun m => decide (m.pid = pid) with
      | some m => respond m.config
      | none => rejection
  | Call.getApis _ => respond (Json.object [("apis", Json.object [])])
  | Call.traceDrop pid => if pid ∈ traced log then respond Json.null else rejection
  | Call.traceAdd _ _ _ => respond Json.null

/-- The supervisor of a fleet, with an allocator that never runs out. -/
def fleetEnv (fleet : List Member) : Env where
  service := fleetService fleet
  alloc := fun _ _ => true

def stringMember? (key : String) (j : Json) : Option String :=
  match j.getEx key with
  | some (Json.string s) => some s
  | _ => none

def intMember? (key : String) (j : Json) : Option Int :=
  match j.getEx key with
  | some (Json.int i) => some i
  | _ => none

/-- The libraries on the values that the supervisor of a fleet answers with. -/
def fleetLibs : Libs where
  unpackQuery := fun j => some
    { pid := intMember? "pid" j
      pids := j.getEx "pids"
      ws := stringMember? "ws" j
      level := stringMember? "level" j }
  unpackCred := intMember? "pid"
  unpackConfig := fun j =>
    match j.getEx "name", j.getEx "ws_servers", j.getEx "ws_clients" with
    | some name, some servers, some clients => some ⟨name, servers, clients⟩
    | _, _, _ => none
  objectForAll := fun
    | Json.object members => members.map Prod.snd
    | _ => []
  getInt := fun
    | Json.int i => i
    | _ => 0
  getString := fun
    | Json.string s => some s
    | _ => none
  packs := fun item => item.name.isSome

def Env.refusing (env : Env) (refuse : Call -> Bool) : Env where
  service := fun log call =>
    if refuse call then rejection else env.service log call
  alloc := env.alloc

/-- Two daemons; the second uses the socket of the first. -/
def pairFleet : List Member :=
  [⟨10, "gps", ["unix:gps"], []⟩, ⟨20, "map", ["unix:map"], ["unix:gps"]⟩]

def pidQuery (pid : Int) : Json := Json.object [("pid", Json.int pid)]

def wsQuery (ws : String) : Json := Json.object [("ws", Json.string ws)]

def pidsQuery (pids : List Int) : Json :=
  Json.object [("pids", Json.array (pids.map Json.int))]

theorem fleetEnv_acceptsAdds (fleet : List Member) :
    AcceptsAdds (fleetEnv fleet) :=
  fun _ _ _ _ => le_refl 0

theorem fleetEnv_rejectsExactlyUntraced (fleet : List Member) :
    RejectsExactlyUntraced (fleetEnv fleet) := by
  intro log pid
  show (if pid ∈ traced log then respond Json.null else rejection).rc < 0 <-> _
  by_cases h : pid ∈ traced log
  · simp [respond, h]
  · simp [rejection, h]

theorem refusing_acceptsTracedDrops {env : Env} {refuse : Call -> Bool}
    (h : AcceptsTracedDrops env)
    (hrefuse : forall pid, refuse (Call.traceDrop pid) = false) :
    AcceptsTracedDrops (env.refusing refuse) := by
  intro log pid hpid
  show 0 ≤ (if refuse (Call.traceDrop pid) then rejection
    else env.service log (Call.traceDrop pid)).rc
  rw [hrefuse]
  exact h log pid hpid

theorem fleetEnv_allocationsSucceed (fleet : List Member) :
    AllocationsSucceed (fleetEnv fleet) :=
  fun _ _ _ => rfl

end Supervisor
end XdsService
