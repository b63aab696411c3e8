import XdsService.Supervisor.Fleet
import XdsService.Supervisor.Independence
import XdsService.Supervisor.Selection

/-!
# Stored daemons

What `list` and `trace_start` find in the entries of the table.  A config
reply without a response leaves the fields of its daemon at zero, and the
entry is stored all the same.
-/

namespace XdsService
namespace Supervisor

open Foundation
open Program

variable {lib : Libs} {env : Env} {apiname : Option String}
variable {a : TraceArgs} {d : Daemon} {w w0 w1 : World}
variable {answers : Answers}

/-- The socket list is an array, and the flag says whether it has elements. -/
def SocketsSafe (sockets : Json) (flag : Bool) : Prop :=
  exists items, sockets = Json.array items ∧ (flag = true <-> items ≠ [])

structure Daemon.Safe (d : Daemon) : Prop where
  name : d.name ≠ none
  servers : SocketsSafe d.wsServers d.isServer
  clients : SocketsSafe d.wsClients d.isClient

/-- `wrap_json_pack` packs every item that has a name. -/
def PacksNamed (lib : Libs) : Prop :=
  forall item : ListItem, item.name ≠ none -> lib.packs item = true

/--
The entries that a collection leaves in the table are safe; so `list` packs
each of them, and a `trace_start` that makes this collection does not take the
length of a socket list that is none.
-/
structure StoredSafely (lib : Libs) (env : Env) (apiname : Option String)
    (w : World) : Prop where
  entries : forall rc table w',
    (getDaemons lib env apiname).run w = .ok (rc, some table) w' ->
      forall d, d ∈ table.daemons -> d.Safe
  list : forall rc table w',
    (getDaemons lib env apiname).run w = .ok (rc, some table) w' ->
      (forall d, d ∈ table.daemons -> (listItem d).name ≠ none) ∧
        (PacksNamed lib ->
          (list lib env apiname).run w = .ok 0
            (w'.emit (Event.success (Payload.daemons
              (table.daemons.map fun d => some (listItem d))) none)))
  traceStart : forall a w0, w0.Idle -> ¬ a.Unset ->
    (prefillRecord lib env a).run w0 = .ok () w ->
      forall w', (traceStartArgs lib env apiname a).run w0 ≠
        .error (Exit.fault Fault.notArray) w'

def SocketsAreArrays (lib : Libs) (env : Env) (apiname : Option String)
    (log : List Event) : Prop :=
  forall answers, answers ∈ collectedAnswers lib env apiname log ->
    answers.pid ≠ none -> 0 ≤ answers.config.rc ->
      SocketsReadable lib apiname answers.config.response

/-- `json_object_get_string` gives NULL for NULL only. -/
def TextsOf (lib : Libs) : Prop :=
  forall j, j.isNull = false -> lib.getString j ≠ none

/-- A daemon for which both calls succeed was sent with its config. -/
def Answers.Configured (answers : Answers) : Prop :=
  answers.pid ≠ none -> 0 ≤ answers.config.rc -> 0 ≤ answers.apis.rc ->
    exists config, answers.config.response.getEx "response" = some config

/-!
## The entries
-/

@[simp] theorem withApis_name (d : Daemon) (response : Json) :
    (d.withApis response).name = d.name := by
  unfold Daemon.withApis
  split <;> rfl

theorem Daemon.Safe.withApis (h : d.Safe) (response : Json) :
    (d.withApis response).Safe := by
  unfold Daemon.withApis
  split
  · exact ⟨h.name, h.servers, h.clients⟩
  · exact h

theorem socketsSafe_of_isArray {sockets : Json}
    (h : sockets.isArray = true) :
    SocketsSafe sockets (decide (0 < (sockets.items?.getD []).length)) := by
  rcases Json.isArray_iff_exists_items.mp h with ⟨items, rfl⟩
  refine ⟨items, rfl, ?_⟩
  rw [decide_eq_true_iff]
  exact List.length_pos_iff

theorem configName_ne_none (htexts : TextsOf lib) (name : Json) :
    configName lib name ≠ none := by
  unfold configName
  cases hnull : name.isNull with
  | true => exact Option.some_ne_none "null"
  | false => exact htexts name hnull

theorem safe_of_listed (htexts : TextsOf lib)
    (hreadable : answers.Readable lib apiname)
    (hconfigured : answers.Configured)
    (h : answers.listed lib apiname = some d) : d.Safe := by
  rcases listed_eq_some h with
    ⟨hconfig, hapis, pid, described, hpid, hdescribed, rfl⟩
  have hasked : answers.pid ≠ none := by
    rw [hpid]
    exact Option.some_ne_none pid
  rcases hconfigured hasked hconfig hapis with ⟨config, hresponse⟩
  rcases describedDaemon_eq_some hresponse hdescribed with
    ⟨parts, hparts, hignored, rfl⟩
  rcases hreadable.sockets hasked hconfig config parts hresponse hparts
    hignored with ⟨hservers, hclients⟩
  apply Daemon.Safe.withApis
  exact ⟨configName_ne_none htexts parts.name,
    socketsSafe_of_isArray hservers, socketsSafe_of_isArray hclients⟩

theorem unnamed_of_not_configured (lib : Libs) (apiname : Option String)
    (h : ¬ answers.Configured) :
    exists d, answers.listed lib apiname = some d ∧ d.name = none := by
  unfold Answers.Configured at h
  push Not at h
  rcases h with ⟨hasked, hconfig, hapis, hresponse⟩
  have hnone : answers.config.response.getEx "response" = none :=
    Option.eq_none_iff_forall_ne_some.mpr hresponse
  rcases Option.ne_none_iff_exists'.mp hasked with ⟨pid, hpid⟩
  refine ⟨({ Daemon.zeroed with pid := pid } : Daemon).withApis
    answers.apis.response, ?_, withApis_name _ _⟩
  have hdescribed : describedDaemon lib apiname pid answers.config.response =
      some { Daemon.zeroed with pid := pid } := by
    unfold describedDaemon
    rw [hnone]
  unfold Answers.listed
  rw [if_neg (by omega), hpid, Option.bind_some, hdescribed]
  rfl

/-!
## The two readers
-/

theorem run_list_of_getDaemons {rc : Int} {table : DaemonTable} {w' : World}
    (h : (getDaemons lib env apiname).run w = .ok (rc, some table) w') :
    (list lib env apiname).run w = .ok 0
      (w'.emit (Event.success
        (Payload.daemons (table.daemons.map (packDaemon lib))) none)) := by
  unfold list
  rw [run_bind_of_ok h]
  rfl

theorem map_packDaemon (hpacks : PacksNamed lib) {daemons : List Daemon}
    (h : forall d, d ∈ daemons -> d.Safe) :
    daemons.map (packDaemon lib) = daemons.map fun d => some (listItem d) := by
  apply List.map_congr_left
  intro d hd
  exact if_pos (hpacks (listItem d) (h d hd).name)

theorem Daemon.Safe.wellFormed (h : d.Safe) : d.WellFormed := by
  rcases h.servers with ⟨servers, hservers, _⟩
  rcases h.clients with ⟨clients, hclients, _⟩
  constructor
  · rw [hservers]
    rfl
  · rw [hclients]
    rfl

theorem finishStart_ne_notArray {level : Option String}
    {daemons : List Daemon} (hsafe : forall d, d ∈ daemons -> d.Safe)
    (w' : World) :
    finishStart daemons
        ((runPlan env level (plan lib a daemons) ⟨0, []⟩).run w1) ≠
      .error (Exit.fault Fault.notArray) w' := by
  intro h
  cases hplan : (runPlan env level (plan lib a daemons) ⟨0, []⟩).run w1 with
  | ok l w2 =>
      rw [hplan] at h
      by_cases hnone : l.nbTracedDaemons = 0
      · rw [finishStart, if_pos hnone] at h
        cases h
      · rw [finishStart, if_neg hnone] at h
        cases h
  | error e w2 =>
      cases planBroken_of_run_eq_error hplan with
      | refused =>
          rw [hplan] at h
          cases h
      | crashed _ _ _ _ hcrash =>
          exact crash_notMem_plan (fun d hd => (hsafe d hd).wellFormed) hcrash

theorem getDaemons_ne_notArray
    (hsockets : SocketsAreArrays lib env apiname w.log) (w' : World) :
    (getDaemons lib env apiname).run w ≠
      .error (Exit.fault Fault.notArray) w' := by
  intro h
  rcases getDaemons_eq_error h with ⟨_, _, f, hf, happly⟩
  cases hf
  rcases applyAll_eq_error happly with hfault | hmem
  · cases hfault
  · rcases List.mem_map.mp hmem with ⟨answers, hin, houtcome⟩
    rcases not_socketsReadable_of_crashed houtcome with
      ⟨hasked, hconfig, hnot⟩
    exact hnot (hsockets answers hin hasked hconfig)

theorem traceStart_ne_notArray
    (hsockets : SocketsAreArrays lib env apiname w.log)
    (hentries : forall rc table w',
      (getDaemons lib env apiname).run w = .ok (rc, some table) w' ->
        forall d, d ∈ table.daemons -> d.Safe)
    (hidle : w0.Idle) (hset : ¬ a.Unset)
    (hprefill : (prefillRecord lib env a).run w0 = .ok () w) (w' : World) :
    (traceStartArgs lib env apiname a).run w0 ≠
      .error (Exit.fault Fault.notArray) w' := by
  cases hget : (getDaemons lib env apiname).run w with
  | ok found w1 =>
      have hlists : ListsDaemons lib env apiname a w0
          (tableDaemons found.2) w1 :=
        ⟨found, (run_bind_of_ok hprefill).trans hget, rfl⟩
      rw [run_traceStartArgs_of_listsDaemons hset hidle hlists]
      apply finishStart_ne_notArray
      intro d hd
      rcases found with ⟨rc, table⟩
      cases table with
      | none => cases hd
      | some table => exact hentries rc table w1 hget d hd
  | error e w1 =>
      intro h
      rw [run_traceStartArgs_of_collection_error hset hidle.num hprefill
        hget] at h
      cases h
      exact getDaemons_ne_notArray hsockets _ hget

/-!
## When the entries are safe
-/

/-- A collection that ends stores no daemon that came without its config. -/
def ConfiguredIfComplete (lib : Libs) (env : Env) (apiname : Option String)
    (log : List Event) : Prop :=
  Completes lib env apiname log ->
    forall answers, answers ∈ collectedAnswers lib env apiname log ->
      answers.Configured

theorem entries_safe (htexts : TextsOf lib)
    (h : ConfiguredIfComplete lib env apiname w.log) {rc : Int}
    {table : DaemonTable} {w' : World}
    (hrun : (getDaemons lib env apiname).run w = .ok (rc, some table) w') :
    forall d, d ∈ table.daemons -> d.Safe := by
  intro d hd
  by_cases hdiscovers : Discovers env w.log
  · rcases completes_of_run hdiscovers hrun with ⟨hcompletes, hcollection⟩
    rw [hcollection.table] at hd
    rcases List.mem_filterMap.mp hd with ⟨answers, hmem, hlisted⟩
    exact safe_of_listed htexts (hcompletes.readable answers hmem)
      (h hcompletes answers hmem) hlisted
  · rcases run_getDaemons_of_undiscovered lib apiname hdiscovers with
      ⟨rc1, w1, _, hempty⟩
    rw [hempty] at hrun
    unfold allocatedTable at hrun
    split at hrun
    · cases hrun
      cases hd
    · cases hrun

/--
Stored daemons are safe to use exactly where no daemon is stored whose config
reply, though the call succeeded, has no response.
-/
theorem stored_safely_iff (htexts : TextsOf lib)
    (hsockets : SocketsAreArrays lib env apiname w.log) :
    StoredSafely lib env apiname w <->
      ConfiguredIfComplete lib env apiname w.log := by
  constructor
  · intro h hcompletes answers hmem
    by_contra hconfigured
    rcases exists_collection hcompletes with ⟨rc, table, w', hcollection⟩
    rcases unnamed_of_not_configured lib apiname hconfigured with
      ⟨d, hlisted, hname⟩
    have hd : d ∈ table.daemons := by
      rw [hcollection.table]
      exact List.mem_filterMap.mpr ⟨answers, hmem, hlisted⟩
    exact (h.entries rc table w' hcollection.run d hd).name hname
  · intro h
    have hentries : forall rc table w',
        (getDaemons lib env apiname).run w = .ok (rc, some table) w' ->
          forall d, d ∈ table.daemons -> d.Safe :=
      fun rc table w' hrun => entries_safe htexts h hrun
    constructor
    · exact hentries
    · intro rc table w' hrun
      have hsafe := hentries rc table w' hrun
      refine ⟨fun d hd => (hsafe d hd).name, fun hpacks => ?_⟩
      rw [run_list_of_getDaemons hrun, map_packDaemon hpacks hsafe]
    · intro a w0 hidle hset hprefill
      exact traceStart_ne_notArray hsockets hentries hidle hset hprefill

def textLibs : Libs :=
  { fleetLibs with
    getString := fun
      | Json.null => none
      | Json.string s => some s
      | Json.int i => some (toString i)
      | Json.bool b => some (toString b)
      | _ => some "" }

theorem textLibs_textsOf : TextsOf textLibs := by
  intro j hnull
  cases j with
  | null => cases hnull
  | _ => exact Option.some_ne_none _

theorem socketsReadable_fleet (fleet : List Member) (log : List Event)
    (pid : Int) (hrc : 0 ≤ (fleetService fleet log (Call.config pid)).rc) :
    SocketsReadable textLibs apiname
      (fleetService fleet log (Call.config pid)).response := by
  unfold fleetService at *
  cases hfind : fleet.find? fun m => decide (m.pid = pid) with
  | none =>
      simp only [hfind] at hrc
      exact absurd hrc (by decide)
  | some m =>
      intro config parts hconfig hparts _
      simp only [hfind] at hconfig
      cases hconfig
      cases hparts
      exact ⟨rfl, rfl⟩

theorem socketsAreArrays_fleet (fleet : List Member) (w : World) :
    SocketsAreArrays textLibs (fleetEnv fleet) apiname w.log := by
  intro answers hmem _ hrc
  rcases mem_answersToAll hmem with ⟨log, obj, rfl⟩
  exact socketsReadable_fleet fleet
    (log ++ [Event.alloc Allocation.callocDaemon true]) _ hrc

theorem stored_safely_iff_pair :
    StoredSafely textLibs (fleetEnv pairFleet) (some "xds") World.initial <->
      ConfiguredIfComplete textLibs (fleetEnv pairFleet) (some "xds") [] :=
  stored_safely_iff textLibs_textsOf
    (socketsAreArrays_fleet pairFleet World.initial)

/-- The fleet of two, where the config reply of the first has no response. -/
def bareEnv : Env where
  service := fun log call =>
    if call = Call.config 10 then ⟨0, Json.object []⟩
    else fleetService pairFleet log call
  alloc := fun _ _ => true

/-- The daemon without a config is stored with no name. -/
theorem bare_config_stored :
    ¬ StoredSafely textLibs bareEnv (some "xds") World.initial := by
  intro h
  have hreturns : returnsWith
      (fun found _ => (tableDaemons found.2).any fun d => d.name.isNone)
      ((getDaemons textLibs bareEnv (some "xds")).run World.initial) = true := by
    decide +kernel
  rcases exists_of_returnsWith hreturns with ⟨⟨rc, table⟩, w', hrun, hcheck⟩
  cases table with
  | none => cases hcheck
  | some table =>
      rcases List.any_eq_true.mp hcheck with ⟨d, hd, hname⟩
      exact (h.entries rc table w' hrun d hd).name (Option.isNone_iff_eq_none.mp hname)

end Supervisor
end XdsService
