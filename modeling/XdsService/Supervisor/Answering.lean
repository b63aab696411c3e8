import XdsService.Supervisor.Protocol
import XdsService.Supervisor.Stored

/-!
# Which requests are answered

A request that returns follows the protocol.  It returns unless it collects the
daemons and crashes there: where there is no memory for one of them, where the
apis of one are no object, or where there are too many for the table.
-/

namespace XdsService
namespace Supervisor

open Foundation
open Program

variable {lib : Libs} {env : Env} {apiname : Option String}
variable {w w0 : World} {a : TraceArgs} {request : Request}

/-!
## When the daemons are collected
-/

/-- The log behind `prefillRecord`, if there is memory for the pids. -/
def prefilledLog (env : Env) (log : List Event) (a : TraceArgs) :
    Option (List Event) :=
  match a.pids.items? with
  | none => some log
  | some items =>
      if env.alloc log (Allocation.mallocPids items.length) then
        some (log ++ [Event.alloc (Allocation.mallocPids items.length) true])
      else
        none

/-- The log with which a request collects the daemons, if it does. -/
def collectsAt (lib : Libs) (env : Env) (w : World) :
    Request -> Option (List Event)
  | Request.list => some w.log
  | Request.traceStart queryJ =>
      (lib.unpackQuery queryJ).bind fun q =>
        if (TraceArgs.ofQuery q).Unset ∨ 0 < w.tracePidsNum then none
        else prefilledLog env w.log (TraceArgs.ofQuery q)
  | Request.traceStop => none

theorem prefillRecord_ends (lib : Libs) (env : Env) (a : TraceArgs)
    (w : World) :
    (exists w1, (prefillRecord lib env a).run w = .ok () w1 ∧
        prefilledLog env w.log a = some w1.log) ∨
      exists w1, (prefillRecord lib env a).run w = .error Exit.gotoError w1 ∧
        prefilledLog env w.log a = none := by
  unfold prefilledLog
  cases hitems : a.pids.items? with
  | none => exact Or.inl ⟨w, run_prefillRecord_of_none hitems w, rfl⟩
  | some items =>
      cases halloc : env.alloc w.log (Allocation.mallocPids items.length) with
      | true =>
          exact Or.inl ⟨_, run_prefillRecord_of_allocated hitems halloc,
            by simp only [halloc]; rfl⟩
      | false =>
          rcases @run_prefillRecord_of_not_allocated lib env a items hitems w
            halloc with ⟨w1, hrun, _⟩
          exact Or.inr ⟨w1, hrun, by simp only [halloc]; rfl⟩

/-!
## When they can be collected
-/

/-- There is memory, the apis are objects, and the table has slots enough. -/
structure Collectable (lib : Libs) (env : Env) (apiname : Option String)
    (log : List Event) : Prop where
  memory : forall answers, answers ∈ collectedAnswers lib env apiname log ->
    answers.pid ≠ none -> answers.allocated = true
  apis : forall answers, answers ∈ collectedAnswers lib env apiname log ->
    forall pid, answers.pid = some pid -> 0 ≤ answers.config.rc ->
      describedDaemon lib apiname pid answers.config.response ≠ none ->
      0 ≤ answers.apis.rc -> ApisReadable answers.apis.response
  fits : ((collectedAnswers lib env apiname log).filterMap
    (Answers.listed lib apiname)).length ≤ maxDaemons

/-- So it is if there is a table and the supervisor answers. -/
def CollectsSafely (lib : Libs) (env : Env) (apiname : Option String)
    (log : List Event) : Prop :=
  env.alloc log Allocation.callocDaemons = true -> Discovers env log ->
    Collectable lib env apiname log

/-- The daemons that the supervisor tells of have arrays of sockets. -/
structure ListsWellFormed (lib : Libs) (env : Env) (apiname : Option String) :
    Prop where
  replies : forall log, SocketsAreArrays lib env apiname log
  daemons : forall log answers d,
    answers ∈ collectedAnswers lib env apiname log ->
      answers.listed lib apiname = some d -> d.WellFormed

theorem completes_of_collectable
    (hsockets : SocketsAreArrays lib env apiname w.log)
    (halloc : env.alloc w.log Allocation.callocDaemons = true)
    (hdiscovers : Discovers env w.log)
    (h : Collectable lib env apiname w.log) :
    Completes lib env apiname w.log where
  allocated := halloc
  discovers := hdiscovers
  readable := fun answers hmem =>
    ⟨h.memory answers hmem, hsockets answers hmem, h.apis answers hmem⟩
  fits := h.fits

theorem Completes.collectable (h : Completes lib env apiname w.log) :
    Collectable lib env apiname w.log where
  memory := fun answers hmem => (h.readable answers hmem).memory
  apis := fun answers hmem => (h.readable answers hmem).apis
  fits := h.fits

theorem exists_table {found : Int × Option DaemonTable} {w' : World}
    (halloc : env.alloc w.log Allocation.callocDaemons = true)
    (hdiscovers : Discovers env w.log)
    (hrun : (getDaemons lib env apiname).run w = .ok found w') :
    exists rc table, found = (rc, some table) := by
  rcases run_getDaemons lib apiname halloc hdiscovers with ⟨w1, heq, _⟩
  rw [heq] at hrun
  cases happly : applyAll (collectedOutcomes lib env apiname w.log)
      ((listReply env w.log).rc, DaemonTable.empty) with
  | error f =>
      rw [happly] at hrun
      cases hrun
  | ok sofar =>
      rw [happly] at hrun
      cases hrun
      exact ⟨_, _, rfl⟩

theorem getDaemons_returns_iff
    (hsockets : SocketsAreArrays lib env apiname w.log) :
    (exists found w', (getDaemons lib env apiname).run w = .ok found w') <->
      CollectsSafely lib env apiname w.log := by
  constructor
  · rintro ⟨found, w', hrun⟩ halloc hdiscovers
    rcases exists_table halloc hdiscovers hrun with ⟨rc, table, rfl⟩
    exact (completes_of_run hdiscovers hrun).left.collectable
  · intro h
    cases halloc : env.alloc w.log Allocation.callocDaemons with
    | false =>
        rcases run_getDaemons_of_no_table lib apiname halloc with
          ⟨rc, w', hrun⟩
        exact ⟨_, w', hrun⟩
    | true =>
        by_cases hdiscovers : Discovers env w.log
        · rcases exists_collection (completes_of_collectable hsockets halloc
            hdiscovers (h halloc hdiscovers)) with ⟨rc, table, w', hcollects⟩
          exact ⟨_, w', hcollects.run⟩
        · rcases run_getDaemons_of_undiscovered lib apiname hdiscovers with
            ⟨rc, w', _, hrun⟩
          exact ⟨_, w', hrun⟩

theorem wellFormed_of_getDaemons (h : ListsWellFormed lib env apiname)
    {found : Int × Option DaemonTable} {w' : World}
    (hrun : (getDaemons lib env apiname).run w = .ok found w') :
    forall d, d ∈ tableDaemons found.2 -> d.WellFormed := by
  intro d hd
  by_cases hdiscovers : Discovers env w.log
  · rcases found with ⟨rc, found⟩
    cases found with
    | none => cases hd
    | some table =>
        have hcollection := (completes_of_run hdiscovers hrun).right
        have hstored : d ∈ table.daemons := hd
        rw [hcollection.table] at hstored
        rcases List.mem_filterMap.mp hstored with ⟨answers, hmem, hlisted⟩
        exact h.daemons w.log answers d hmem hlisted
  · rcases run_getDaemons_of_undiscovered lib apiname hdiscovers with
      ⟨rc, w1, _, hnone⟩
    rw [hnone] at hrun
    cases hrun
    unfold allocatedTable at hd
    split at hd
    · cases hd
    · cases hd

/-!
## Which requests return
-/

theorem returns_finishStart {daemons : List Daemon}
    (hformed : forall d, d ∈ daemons -> d.WellFormed) (w : World) :
    exists rc w', finishStart daemons
      ((runPlan env a.level (plan lib a daemons) ⟨0, []⟩).run w) =
        .ok rc w' := by
  cases hplan : (runPlan env a.level (plan lib a daemons) ⟨0, []⟩).run w with
  | ok l w2 =>
      by_cases hnb : l.nbTracedDaemons = 0
      · exact ⟨_, _, if_pos hnb⟩
      · exact ⟨_, _, if_neg hnb⟩
  | error e w2 =>
      cases planBroken_of_run_eq_error hplan with
      | refused events info _ _ _ => exact ⟨_, _, rfl⟩
      | crashed events _ _ _ hcrash =>
          exact absurd hcrash (crash_notMem_plan hformed)

theorem returns_list_iff :
    (exists rc w', (list lib env apiname).run w = .ok rc w') <->
      exists found w', (getDaemons lib env apiname).run w = .ok found w' := by
  constructor
  · rintro ⟨rc, w', hrun⟩
    rcases run_bind_eq_ok hrun with ⟨found, w1, hget, _⟩
    exact ⟨found, w1, hget⟩
  · rintro ⟨found, w1, hget⟩
    unfold list
    rw [run_bind_of_ok hget]
    cases found.2 with
    | none => exact ⟨_, _, rfl⟩
    | some table => exact ⟨_, _, rfl⟩

theorem returns_traceStartArgs_iff (h : ListsWellFormed lib env apiname)
    (hset : ¬ a.Unset) (hidle : w.Idle) {w1 : World}
    (hprefill : (prefillRecord lib env a).run w = .ok () w1) :
    (exists rc w', (traceStartArgs lib env apiname a).run w = .ok rc w') <->
      exists found w', (getDaemons lib env apiname).run w1 = .ok found w' := by
  constructor
  · rintro ⟨rc, w', hrun⟩
    cases hget : (getDaemons lib env apiname).run w1 with
    | ok found w2 => exact ⟨found, w2, rfl⟩
    | error e w2 =>
        rw [run_traceStartArgs_of_collection_error hset hidle.num hprefill
          hget] at hrun
        cases hrun
  · rintro ⟨found, w2, hget⟩
    have hlists : ListsDaemons lib env apiname a w (tableDaemons found.2) w2 :=
      ⟨found, (run_bind_of_ok hprefill).trans hget, rfl⟩
    rw [run_traceStartArgs_of_listsDaemons hset hidle hlists]
    exact returns_finishStart (wellFormed_of_getDaemons h hget) w2

def SafeRequest (lib : Libs) (env : Env) (apiname : Option String) (w : World)
    (request : Request) : Prop :=
  forall log, collectsAt lib env w request = some log ->
    CollectsSafely lib env apiname log

theorem safeRequest_of_none (h : collectsAt lib env w request = none) :
    SafeRequest lib env apiname w request := by
  intro log hlog
  rw [h] at hlog
  cases hlog

theorem safeRequest_iff_of_some {log : List Event}
    (h : collectsAt lib env w request = some log) :
    SafeRequest lib env apiname w request <->
      CollectsSafely lib env apiname log := by
  constructor
  · intro hsafe
    exact hsafe log h
  · intro hsafe log' hlog'
    rw [h] at hlog'
    cases hlog'
    exact hsafe

theorem collectsAt_of_query {queryJ : Json} {q : QueryArgs}
    (h : lib.unpackQuery queryJ = some q) :
    collectsAt lib env w (Request.traceStart queryJ) =
      if (TraceArgs.ofQuery q).Unset ∨ 0 < w.tracePidsNum then none
      else prefilledLog env w.log (TraceArgs.ofQuery q) := by
  show (lib.unpackQuery queryJ).bind _ = _
  rw [h]
  rfl

theorem returns_traceStart_iff (hinv : SessionInv w)
    (h : ListsWellFormed lib env apiname) (queryJ : Json) :
    (exists rc w', (traceStart lib env apiname queryJ).run w = .ok rc w') <->
      SafeRequest lib env apiname w (Request.traceStart queryJ) := by
  cases hquery : lib.unpackQuery queryJ with
  | none =>
      refine iff_of_true ⟨_, _, run_traceStart_of_bad_query hquery w⟩
        (safeRequest_of_none ?_)
      show (lib.unpackQuery queryJ).bind _ = none
      rw [hquery]
      rfl
  | some q =>
      have hat := @collectsAt_of_query _ env w _ _ hquery
      rw [run_traceStart_of_query hquery]
      by_cases hrefused : (TraceArgs.ofQuery q).Unset ∨ 0 < w.tracePidsNum
      · rw [if_pos hrefused] at hat
        refine iff_of_true ?_ (safeRequest_of_none hat)
        by_cases hset : (TraceArgs.ofQuery q).Unset
        · exact ⟨_, _, run_traceStartArgs_of_unset hset w⟩
        · exact ⟨_, _, run_traceStartArgs_of_tracing hset
            (hrefused.resolve_left hset)⟩
      · rw [if_neg hrefused] at hat
        rw [not_or] at hrefused
        have hidle := hinv.idle (Nat.eq_zero_of_not_pos hrefused.right)
        rcases prefillRecord_ends lib env (TraceArgs.ofQuery q) w with
          ⟨w1, hprefill, hlog⟩ | ⟨w1, hprefill, hlog⟩
        · rw [hlog] at hat
          rw [returns_traceStartArgs_iff h hrefused.left hidle hprefill,
            getDaemons_returns_iff (h.replies w1.log),
            safeRequest_iff_of_some hat]
        · rw [hlog] at hat
          refine iff_of_true ?_ (safeRequest_of_none hat)
          exact ⟨_, _, run_traceStartArgs_of_prefill_error hrefused.left
            hidle.num hprefill⟩

/-- A request is served exactly where it is safe. -/
theorem serves_iff (hinv : SessionInv w) (h : ListsWellFormed lib env apiname)
    (request : Request) :
    (exists rc w', Serves lib env apiname w request rc w') <->
      SafeRequest lib env apiname w request := by
  cases request with
  | list =>
      rw [safeRequest_iff_of_some rfl,
        ← getDaemons_returns_iff (h.replies w.log)]
      exact returns_list_iff
  | traceStart queryJ => exact returns_traceStart_iff hinv h queryJ
  | traceStop =>
      exact iff_of_true (returns_traceStop env hinv) (safeRequest_of_none rfl)

/-!
## Runs
-/

def AllSafe (lib : Libs) (env : Env) (apiname : Option String) :
    World -> List Request -> Prop
  | _, [] => True
  | w, request :: rest =>
      SafeRequest lib env apiname w request ∧
        forall rc w', Serves lib env apiname w request rc w' ->
          AllSafe lib env apiname w' rest

theorem exists_run_iff (hinv : SessionInv w)
    (h : ListsWellFormed lib env apiname) (requests : List Request) :
    (exists moves w', Run (Serves lib env apiname) w moves w' ∧
        moves.map Move.action = requests) <->
      AllSafe lib env apiname w requests := by
  induction requests generalizing w with
  | nil => exact iff_of_true ⟨[], w, Run.nil, rfl⟩ trivial
  | cons request rest ih =>
      constructor
      · rintro ⟨moves, w', hrun, hactions⟩
        rcases List.map_eq_cons_iff.mp hactions with
          ⟨m, moves, rfl, rfl, hrest⟩
        rcases hrun.cons_inv with ⟨rfl, hserves, hlater⟩
        refine ⟨(serves_iff hinv h _).mp ⟨_, _, hserves⟩, ?_⟩
        intro rc w1 hserves'
        have hinv' := (served_of_serves hinv hserves').inv
        apply (ih hinv').mp
        unfold Serves at hserves hserves'
        rw [hserves] at hserves'
        cases hserves'
        exact ⟨moves, w', hlater, hrest⟩
      · rintro ⟨hsafe, hrest⟩
        rcases (serves_iff hinv h request).mpr hsafe with ⟨rc, w1, hserves⟩
        have hinv' := (served_of_serves hinv hserves).inv
        rcases (ih hinv').mpr (hrest rc w1 hserves) with
          ⟨moves, w', hrun, hactions⟩
        exact ⟨_, w', Run.cons hserves hrun,
          congrArg (List.cons request) hactions⟩

/-- The requests are all answered, and as the protocol asks. -/
def KeepsProtocol (lib : Libs) (env : Env) (apiname : Option String)
    (w0 : World) (requests : List Request) : Prop :=
  exists moves w, Run (Serves lib env apiname) w0 moves w ∧
    moves.map Move.action = requests ∧ FollowsProtocol moves

/--
From an idle world every run of answered requests follows the protocol; and of
the requests all are answered exactly where each collection of well-formed
daemons that they make has memory, readable apis and slots enough.
-/
theorem session_protocol_iff (hidle : w0.Idle)
    (h : ListsWellFormed lib env apiname) :
    (forall moves w, Run (Serves lib env apiname) w0 moves w ->
        FollowsProtocol moves) ∧
      forall requests, KeepsProtocol lib env apiname w0 requests <->
        AllSafe lib env apiname w0 requests := by
  refine ⟨fun moves w hrun => followsProtocol_of_run hidle hrun, ?_⟩
  intro requests
  rw [← exists_run_iff hidle.sessionInv h]
  constructor
  · rintro ⟨moves, w, hrun, hactions, _⟩
    exact ⟨moves, w, hrun, hactions⟩
  · rintro ⟨moves, w, hrun, hactions⟩
    exact ⟨moves, w, hrun, hactions, followsProtocol_of_run hidle hrun⟩

/-!
## Fleets
-/

theorem wellFormed_of_described {pid : Int} {response config : Json}
    {d : Daemon} (hsockets : SocketsReadable lib apiname response)
    (hconfig : response.getEx "response" = some config)
    (h : describedDaemon lib apiname pid response = some d) :
    d.WellFormed := by
  rcases describedDaemon_eq_some hconfig h with ⟨parts, hparts, hignored, rfl⟩
  rcases hsockets config parts hconfig hparts hignored with
    ⟨hservers, hclients⟩
  exact ⟨hservers, hclients⟩

theorem Daemon.WellFormed.withApis {d : Daemon} (h : d.WellFormed)
    (response : Json) : (d.withApis response).WellFormed := by
  unfold Daemon.withApis
  split
  · exact ⟨h.wsServers, h.wsClients⟩
  · exact h

theorem configured_fleet (fleet : List Member) (log : List Event) (pid : Int)
    (hrc : 0 ≤ (fleetService fleet log (Call.config pid)).rc) :
    exists config, (fleetService fleet log
      (Call.config pid)).response.getEx "response" = some config := by
  unfold fleetService at *
  cases hfind : fleet.find? fun m => decide (m.pid = pid) with
  | none =>
      simp only [hfind] at hrc
      exact absurd hrc (by decide)
  | some m =>
      simp only [hfind]
      exact ⟨m.config, rfl⟩

theorem listsWellFormed_fleet (fleet : List Member) :
    ListsWellFormed textLibs (fleetEnv fleet) apiname where
  replies := fun log =>
    socketsAreArrays_fleet fleet { World.initial with log := log }
  daemons := by
    intro log answers d hmem hlisted
    rcases mem_answersToAll hmem with ⟨log', obj, rfl⟩
    rcases listed_eq_some hlisted with
      ⟨hconfig, _, pid, described, _, hdescribed, rfl⟩
    have hsockets : SocketsReadable textLibs apiname
        (answersAbout textLibs (fleetEnv fleet) log' obj).config.response :=
      socketsReadable_fleet fleet
        (log' ++ [Event.alloc Allocation.callocDaemon true]) _ hconfig
    rcases configured_fleet fleet
      (log' ++ [Event.alloc Allocation.callocDaemon true]) _ hconfig with
      ⟨config, hresponse⟩
    exact (wellFormed_of_described hsockets hresponse hdescribed).withApis _

def startStartStop : List Request :=
  [Request.traceStart (pidQuery 10), Request.traceStart (pidQuery 20),
    Request.traceStop]

theorem session_protocol_iff_fleet :
    KeepsProtocol textLibs (fleetEnv pairFleet) (some "xds") World.initial
        startStartStop ∧
      AllSafe textLibs (fleetEnv pairFleet) (some "xds") World.initial
        startStartStop := by
  have hprotocol := @session_protocol_iff _ _ (some "xds") _
    World.initial_idle (listsWellFormed_fleet pairFleet)
  have hserve : (serveAll textLibs (fleetEnv pairFleet) (some "xds")
      World.initial startStartStop).isSome = true := by
    decide +kernel
  rcases Option.isSome_iff_exists.mp hserve with ⟨run, hrun⟩
  have hruns := run_of_serveAll hrun
  have hkeeps : KeepsProtocol textLibs (fleetEnv pairFleet) (some "xds")
      World.initial startStartStop :=
    ⟨run.1, run.2, hruns, actions_of_serveAll hrun,
      hprotocol.left run.1 run.2 hruns⟩
  exact ⟨hkeeps, (hprotocol.right startStartStop).mp hkeeps⟩

/-- The fleet of two, with memory for the table but for no daemon. -/
def noDaemonEnv : Env where
  service := fleetService pairFleet
  alloc := fun _ what => decide (what ≠ Allocation.callocDaemon)

/-- The start is left without an answer, so that the protocol is not kept. -/
theorem unanswered_start :
    (exists w', (handle textLibs noDaemonEnv (some "xds")
          (Request.traceStart (pidQuery 10))).run World.initial =
        .error (Exit.fault Fault.nullDaemon) w' ∧
      (World.initial.eventsSince w').filter Event.isAnswer = []) ∧
      ¬ KeepsProtocol textLibs noDaemonEnv (some "xds") World.initial
        [Request.traceStart (pidQuery 10)] := by
  have hfault : exists w', (handle textLibs noDaemonEnv (some "xds")
        (Request.traceStart (pidQuery 10))).run World.initial =
      .error (Exit.fault Fault.nullDaemon) w' ∧
        (World.initial.eventsSince w').filter Event.isAnswer = [] :=
    ⟨_, rfl, rfl⟩
  refine ⟨hfault, ?_⟩
  rintro ⟨moves, w, hrun, hactions, _⟩
  rcases hfault with ⟨w', hfault, _⟩
  rcases List.map_eq_singleton_iff.mp hactions with ⟨m, rfl, haction⟩
  rcases hrun.cons_inv with ⟨hbefore, hserves, _⟩
  unfold Serves at hserves
  rw [haction, hfault] at hserves
  cases hserves

end Supervisor
end XdsService
