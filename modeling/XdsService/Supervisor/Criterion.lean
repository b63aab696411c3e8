import XdsService.Supervisor.Accepted

/-!
# Requests with one criterion

A request names its daemons by a pid, by an array of pids or by a socket name.
For the array and the socket name the daemons traced are exactly those that
satisfy the criterion; for the pid they are not, because the empty socket name is
still in force for the daemons in front.
-/

namespace XdsService
namespace Supervisor

open Foundation
open Program

variable {lib : Libs} {env : Env} {apiname : Option String}
variable {queryJ : Json} {a : TraceArgs} {q : QueryArgs}
variable {level : Option String} {d : Daemon} {daemons : List Daemon}
variable {w w1 w' : World} {rc : Int}

/-- The list that the request works on, if it comes to collecting daemons. -/
def CollectsDaemons (lib : Libs) (env : Env) (apiname : Option String)
    (a : TraceArgs) (w : World) (daemons : List Daemon) : Prop :=
  forall w1, (prefillRecord lib env a).run w = .ok () w1 ->
    exists found w2, (getDaemons lib env apiname).run w1 = .ok found w2 ∧
      tableDaemons found.2 = daemons

theorem CollectsDaemons.listsDaemons
    (h : CollectsDaemons lib env apiname a w daemons)
    (hprefill : (prefillRecord lib env a).run w = .ok () w1) :
    exists w2, ListsDaemons lib env apiname a w daemons w2 := by
  rcases h w1 hprefill with ⟨found, w2, hget, hfound⟩
  exact ⟨w2, found, (run_bind_of_ok hprefill).trans hget, hfound⟩

theorem collectsDaemons_of_getDaemons {w2 : World}
    {found : Int × Option DaemonTable}
    (hprefill : (prefillRecord lib env a).run w = .ok () w1)
    (hget : (getDaemons lib env apiname).run w1 = .ok found w2) :
    CollectsDaemons lib env apiname a w (tableDaemons found.2) := by
  intro w1' hprefill'
  rw [hprefill] at hprefill'
  cases hprefill'
  exact ⟨found, w2, hget, rfl⟩

theorem served_traceStartArgs (hidle : w.Idle)
    (hquery : lib.unpackQuery queryJ = some q)
    (hargs : TraceArgs.ofQuery q = a)
    (hrun : (traceStartArgs lib env apiname a).run w = .ok rc w') :
    Served w (Request.traceStart queryJ) rc w' := by
  have hstart : (traceStart lib env apiname queryJ).run w = .ok rc w' := by
    rw [run_traceStart_of_query hquery, hargs]
    exact hrun
  exact served_traceStart hidle.sessionInv hstart

/-!
## By pid
-/

def pidArgs (p : Int) (level : Option String) : TraceArgs :=
  ⟨p, Json.null, "", level⟩

/-- The socket lists are arrays, and no element of them has a text. -/
structure NoSockets (lib : Libs) (d : Daemon) : Prop where
  formed : d.WellFormed
  servers : forall items, d.wsServers.items? = some items ->
    forall socket, socket ∈ items -> lib.getString socket = none
  clients : forall items, d.wsClients.items? = some items ->
    forall socket, socket ∈ items -> lib.getString socket = none

/-- Exactly the daemon with pid `p` is traced, if there is one. -/
def TracesOnly (lib : Libs) (env : Env) (apiname : Option String)
    (queryJ : Json) (w : World) (p : Int) (daemons : List Daemon) : Prop :=
  exists rc w', (traceStart lib env apiname queryJ).run w = .ok rc w' ∧
    ((exists d, d ∈ daemons ∧ d.pid = p) ->
      addedPids (w.eventsSince w') = [p] ∧
        answeredPids (w.eventsSince w') = [p] ∧ w'.RecordIs [p]) ∧
    ((forall d, d ∈ daemons -> d.pid ≠ p) ->
      addedPids (w.eventsSince w') = [] ∧ RequestFails w w' ∧ w'.Idle)

theorem socketMatches_empty_iff {socket : Json} :
    socketMatches lib "" socket = true <-> lib.getString socket ≠ none := by
  unfold socketMatches
  cases lib.getString socket with
  | none => simp
  | some wsn => simp

theorem scanMatches_empty_iff {sockets : Json} :
    scanMatches lib "" sockets = false <->
      forall items, sockets.items? = some items ->
        forall socket, socket ∈ items -> lib.getString socket = none := by
  unfold scanMatches
  cases sockets.items? with
  | none => simp
  | some items =>
      simp only [List.any_eq_false, socketMatches_empty_iff, not_not]
      constructor
      · intro h items' heq
        cases heq
        exact h
      · intro h
        exact h items rfl

theorem noSockets_iff (p : Int) (level : Option String) :
    NoSockets lib d <->
      d.WellFormed ∧ selects lib (pidArgs p level) d = false := by
  have hselects : selects lib (pidArgs p level) d =
      (scanMatches lib "" d.wsServers || scanMatches lib "" d.wsClients) := rfl
  rw [hselects, Bool.or_eq_false_iff, scanMatches_empty_iff,
    scanMatches_empty_iff]
  constructor
  · intro h
    exact ⟨h.formed, h.servers, h.clients⟩
  · intro h
    exact ⟨h.left, h.right.left, h.right.right⟩

section ByPid

variable {p : Int}

theorem hits_pidArgs_iff (hp : p ≠ -1) (level : Option String) :
    Hits (pidArgs p level) daemons <->
      exists d, d ∈ daemons ∧ d.pid = p := by
  unfold Hits TraceArgs.IsTarget pidArgs
  simp [hp, eq_comm]

theorem not_unset_pidArgs (hp : p ≠ -1) (level : Option String) :
    ¬ (pidArgs p level).Unset :=
  fun h => hp h.left

theorem tracesOnly_of_accepted {rc : Int} (hp : p ≠ -1)
    (hquiet : forall d, d ∈ inFront (pidArgs p level) daemons ->
      selects lib (pidArgs p level) d = false)
    (haccepted : AcceptedStart lib (pidArgs p level) daemons w rc w')
    (hserved : Served w (Request.traceStart queryJ) rc w') :
    ((exists d, d ∈ daemons ∧ d.pid = p) ->
      addedPids (w.eventsSince w') = [p] ∧
        answeredPids (w.eventsSince w') = [p] ∧ w'.RecordIs [p]) ∧
    ((forall d, d ∈ daemons -> d.pid ≠ p) ->
      addedPids (w.eventsSince w') = [] ∧ RequestFails w w' ∧ w'.Idle) := by
  constructor
  · intro hlisted
    have hhits := (hits_pidArgs_iff hp level).mpr hlisted
    have hvisited := visitedPids_plan_of_hits hhits hquiet
    have hne : visitedPids (plan lib (pidArgs p level) daemons) ≠ [] := by
      simp [hvisited]
    have hrecord := (haccepted.started hne).right
    rw [recordAfterPlan_of_hits hhits] at hrecord
    rw [haccepted.added, haccepted.answered, hvisited]
    exact ⟨rfl, rfl, hrecord⟩
  · intro hnone
    have hhits : ¬ Hits (pidArgs p level) daemons := by
      rw [hits_pidArgs_iff hp level]
      intro h
      rcases h with ⟨d, hd, hpid⟩
      exact hnone d hd hpid
    rw [inFront_of_not_hits hhits] at hquiet
    have hvisited := visitedPids_plan_of_not_hits hhits hquiet
    rcases haccepted.failed hvisited with ⟨hrc, hidle'⟩
    rw [haccepted.added, hvisited]
    refine ⟨rfl, hserved.answered.requestFails_iff.mpr ?_, hidle'⟩
    rw [hrc]
    exact errorCode_ne_zero

theorem not_selects_of_tracesOnly {rc : Int} (hp : p ≠ -1)
    (haccepted : AcceptedStart lib (pidArgs p level) daemons w rc w')
    (hlisted : (exists d, d ∈ daemons ∧ d.pid = p) ->
      addedPids (w.eventsSince w') = [p])
    (hnone : (forall d, d ∈ daemons -> d.pid ≠ p) ->
      addedPids (w.eventsSince w') = [])
    (hd : d ∈ inFront (pidArgs p level) daemons) :
    selects lib (pidArgs p level) d = false := by
  rw [← Bool.not_eq_true]
  intro hselects
  have hvisited : d.pid ∈ addedPids (w.eventsSince w') := by
    rw [haccepted.added]
    exact mem_visitedPids_plan.mpr (Or.inr ⟨d, hd, rfl, hselects⟩)
  by_cases hhits : Hits (pidArgs p level) daemons
  · rw [hlisted ((hits_pidArgs_iff hp level).mp hhits)] at hvisited
    exact pid_ne_of_mem_inFront hhits hd (List.mem_singleton.mp hvisited)
  · have hother : forall d, d ∈ daemons -> d.pid ≠ p :=
      fun d hd hpid => hhits ((hits_pidArgs_iff hp level).mpr ⟨d, hd, hpid⟩)
    rw [hnone hother] at hvisited
    cases hvisited

/-- A pid alone is traced alone exactly if no daemon in front has a socket. -/
theorem tracesOnly_iff (hadds : AcceptsAdds env)
    (halloc : AllocationsSucceed env)
    (hquery : lib.unpackQuery queryJ = some q)
    (hargs : TraceArgs.ofQuery q = pidArgs p level) (hp : p ≠ -1)
    (hidle : w.Idle)
    (hcollects : CollectsDaemons lib env apiname (pidArgs p level) w daemons) :
    TracesOnly lib env apiname queryJ w p daemons <->
      forall d, d ∈ inFront (pidArgs p level) daemons -> NoSockets lib d := by
  have hset := not_unset_pidArgs hp level
  have hprefill : (prefillRecord lib env (pidArgs p level)).run w = .ok () w :=
    run_prefillRecord_of_none rfl w
  rcases hcollects.listsDaemons hprefill with ⟨w1, hlists⟩
  have hstart : (traceStart lib env apiname queryJ).run w =
      (traceStartArgs lib env apiname (pidArgs p level)).run w := by
    rw [run_traceStart_of_query hquery, hargs]
  unfold TracesOnly
  rw [hstart]
  rcases acceptedStart_cases hadds halloc hset hidle hlists with
    ⟨hcrash, rc, w', hrun, haccepted⟩ | ⟨hcrash, f, w', hrun⟩
  · have hserved := served_traceStartArgs hidle hquery hargs hrun
    constructor
    · intro h d hd
      rcases h with ⟨rc1, w2, hrun', hlisted, hnone⟩
      rw [hrun] at hrun'
      cases hrun'
      rw [noSockets_iff p level]
      constructor
      · by_contra hformed
        exact hcrash (crash_mem_plan_iff.mpr ⟨rfl, d, hd, hformed⟩)
      · exact not_selects_of_tracesOnly hp haccepted
          (fun h => (hlisted h).left) (fun h => (hnone h).left) hd
    · intro h
      have hquiet : forall d, d ∈ inFront (pidArgs p level) daemons ->
          selects lib (pidArgs p level) d = false :=
        fun d hd => ((noSockets_iff p level).mp (h d hd)).right
      exact ⟨rc, w', hrun,
        tracesOnly_of_accepted hp hquiet haccepted hserved⟩
  · constructor
    · intro h
      rcases h with ⟨rc1, w2, hrun', _⟩
      rw [hrun] at hrun'
      cases hrun'
    · intro h
      rcases (crash_mem_plan_iff.mp hcrash).right with ⟨d, hd, hformed⟩
      exact absurd (h d hd).formed hformed

end ByPid

theorem tracesOnly_iff_fleet :
    exists daemons,
      CollectsDaemons fleetLibs (fleetEnv pairFleet) (some "xds")
          (pidArgs 10 none) World.initial daemons ∧
        (TracesOnly fleetLibs (fleetEnv pairFleet) (some "xds") (pidQuery 10)
            World.initial 10 daemons <->
          forall d, d ∈ inFront (pidArgs 10 none) daemons ->
            NoSockets fleetLibs d) := by
  have hreturns : returnsWith (fun _ _ => true)
      ((getDaemons fleetLibs (fleetEnv pairFleet) (some "xds")).run
        World.initial) = true := by
    decide +kernel
  rcases exists_of_returnsWith hreturns with ⟨found, w1, hget, _⟩
  have hcollects := collectsDaemons_of_getDaemons (a := pidArgs 10 none)
    (run_prefillRecord_of_none rfl World.initial) hget
  exact ⟨tableDaemons found.2, hcollects,
    tracesOnly_iff (fleetEnv_acceptsAdds pairFleet)
      (fleetEnv_allocationsSucceed pairFleet) rfl rfl (by decide)
      World.initial_idle hcollects⟩

/-- The daemon in front of the one asked for has a socket and is traced too. -/
theorem pid_query_traces_other :
    AcceptsAdds (fleetEnv pairFleet) ∧
      AllocationsSucceed (fleetEnv pairFleet) ∧
      exists daemons,
        CollectsDaemons fleetLibs (fleetEnv pairFleet) (some "xds")
            (pidArgs 20 none) World.initial daemons ∧
          ¬ TracesOnly fleetLibs (fleetEnv pairFleet) (some "xds")
            (pidQuery 20) World.initial 20 daemons := by
  refine ⟨fleetEnv_acceptsAdds pairFleet,
    fleetEnv_allocationsSucceed pairFleet, ?_⟩
  have hreturns : returnsWith
      (fun found _ => (tableDaemons found.2).any fun d => decide (d.pid = 20))
      ((getDaemons fleetLibs (fleetEnv pairFleet) (some "xds")).run
        World.initial) = true := by
    decide +kernel
  have hadded : returnsWith
      (fun _ w' => decide (addedPids (World.initial.eventsSince w') = [10, 20]))
      ((traceStart fleetLibs (fleetEnv pairFleet) (some "xds")
        (pidQuery 20)).run World.initial) = true := by
    decide +kernel
  rcases exists_of_returnsWith hreturns with ⟨found, w1, hget, hlisted⟩
  rcases exists_of_returnsWith hadded with ⟨rc, w2, hrun, hcheck⟩
  refine ⟨tableDaemons found.2, collectsDaemons_of_getDaemons
    (run_prefillRecord_of_none rfl World.initial) hget, ?_⟩
  intro h
  rcases h with ⟨rc', w', hrun', hsome, _⟩
  rw [hrun] at hrun'
  cases hrun'
  rcases List.any_eq_true.mp hlisted with ⟨d, hd, hpid⟩
  have honly := (hsome ⟨d, hd, of_decide_eq_true hpid⟩).left
  rw [of_decide_eq_true hcheck] at honly
  exact absurd honly (by decide)

/-!
## By an array of pids, or by a socket name
-/

inductive Criterion where
  | pids (ids : List Int)
  | ws (name : String)

/-- The value fits into the C type int. -/
def IsCInt (v : Int) : Prop := -2147483648 ≤ v ∧ v ≤ 2147483647

/-- `json_object_get_int` reads a JSON integer in that range as it is. -/
def ReadsInts (lib : Libs) : Prop :=
  forall v, IsCInt v -> lib.getInt (Json.int v) = v

namespace Criterion

variable {c : Criterion}

def args (level : Option String) : Criterion -> TraceArgs
  | pids ids => ⟨-1, Json.array (ids.map Json.int), "", level⟩
  | ws name => ⟨-1, Json.null, name, level⟩

def Valid : Criterion -> Prop
  | pids ids => forall p, p ∈ ids -> IsCInt p
  | ws name => name ≠ ""

def Satisfied (lib : Libs) (d : Daemon) : Criterion -> Prop
  | pids ids => d.pid ∈ ids
  | ws name =>
      exists items socket text,
        (d.wsServers = Json.array items ∨ d.wsClients = Json.array items) ∧
          socket ∈ items ∧ lib.getString socket = some text ∧
          name.toList <:+: text.toList

theorem not_unset_args (hvalid : c.Valid) (level : Option String) :
    ¬ (c.args level).Unset := by
  intro h
  cases c with
  | pids ids => cases h.right.left
  | ws name => exact hvalid h.right.right

theorem not_hits_args (level : Option String) (daemons : List Daemon) :
    ¬ Hits (c.args level) daemons := by
  intro h
  rcases h with ⟨d, _, htarget, _⟩
  cases c with
  | pids ids => exact htarget rfl
  | ws name => exact htarget rfl

theorem requestedPids_args (hints : ReadsInts lib) {ids : List Int}
    (hvalid : (pids ids).Valid) (level : Option String) :
    requestedPids lib ((pids ids).args level) = ids := by
  show (ids.map Json.int).map lib.getInt = ids
  rw [List.map_map]
  exact (List.map_congr_left fun p hp => hints p (hvalid p hp)).trans
    (List.map_id ids)

theorem scanMatches_iff {name : String} {sockets : Json} :
    scanMatches lib name sockets = true <->
      exists items socket text, sockets = Json.array items ∧
        socket ∈ items ∧ lib.getString socket = some text ∧
        name.toList <:+: text.toList := by
  unfold scanMatches socketMatches
  cases hitems : sockets.items? with
  | none =>
      have hno : forall items, sockets ≠ Json.array items := by
        intro items h
        rw [h] at hitems
        cases hitems
      simp [hno]
  | some items =>
      rw [Json.items?_eq_some_iff.mp hitems]
      simp only [List.any_eq_true, Json.array.injEq]
      constructor
      · intro h
        rcases h with ⟨socket, hsocket, hmatch⟩
        cases htext : lib.getString socket with
        | none =>
            rw [htext] at hmatch
            cases hmatch
        | some text =>
            rw [htext] at hmatch
            exact ⟨items, socket, text, rfl, hsocket, htext,
              strstr_iff.mp hmatch⟩
      · intro h
        rcases h with ⟨items', socket, text, rfl, hsocket, htext, hmatch⟩
        refine ⟨socket, hsocket, ?_⟩
        rw [htext]
        exact strstr_iff.mpr hmatch

/-- The handler's test of a daemon is the criterion. -/
theorem selects_iff (hints : ReadsInts lib) (hvalid : c.Valid) :
    selects lib (c.args level) d = true <-> c.Satisfied lib d := by
  cases c with
  | pids ids =>
      have hrequested := requestedPids_args hints hvalid level
      have hselects : selects lib ((pids ids).args level) d =
          decide (d.pid ∈ requestedPids lib ((pids ids).args level)) := rfl
      rw [hselects, hrequested, decide_eq_true_iff]
      rfl
  | ws name =>
      have hselects : selects lib ((ws name).args level) d =
          (scanMatches lib name d.wsServers ||
            scanMatches lib name d.wsClients) := rfl
      rw [hselects, Bool.or_eq_true_iff, scanMatches_iff, scanMatches_iff]
      constructor
      · intro h
        rcases h with ⟨items, socket, text, heq, hrest⟩ |
          ⟨items, socket, text, heq, hrest⟩
        · exact ⟨items, socket, text, Or.inl heq, hrest⟩
        · exact ⟨items, socket, text, Or.inr heq, hrest⟩
      · intro h
        rcases h with ⟨items, socket, text, heq | heq, hrest⟩
        · exact Or.inl ⟨items, socket, text, heq, hrest⟩
        · exact Or.inr ⟨items, socket, text, heq, hrest⟩

theorem mem_visitedPids_iff (hints : ReadsInts lib) (hvalid : c.Valid)
    {p : Int} :
    p ∈ visitedPids (plan lib (c.args level) daemons) <->
      exists d, d ∈ daemons ∧ c.Satisfied lib d ∧ d.pid = p := by
  have hhits := not_hits_args (c := c) level daemons
  rw [mem_visitedPids_plan, inFront_of_not_hits hhits]
  constructor
  · intro h
    rcases h with hhit | ⟨d, hd, hp, hselects⟩
    · exact absurd hhit.left hhits
    · exact ⟨d, hd, (selects_iff hints hvalid).mp hselects, hp.symm⟩
  · intro h
    rcases h with ⟨d, hd, hsatisfied, hp⟩
    exact Or.inr ⟨d, hd, hp.symm, (selects_iff hints hvalid).mpr hsatisfied⟩

/-- Filling the record fails only for the empty array, which nothing satisfies. -/
theorem prefills_or_empty (halloc : AllocationsSucceed env) (lib : Libs)
    (c : Criterion) (level : Option String) (w : World) :
    (exists w1, (prefillRecord lib env (c.args level)).run w = .ok () w1) ∨
      c = pids [] := by
  cases c with
  | ws name => exact Or.inl ⟨w, run_prefillRecord_of_none rfl w⟩
  | pids ids =>
      cases ids with
      | nil => exact Or.inr rfl
      | cons p rest =>
          refine Or.inl ⟨_, run_prefillRecord_of_allocated rfl ?_⟩
          exact halloc _ _ (by simp)

structure TracesExactly (lib : Libs) (c : Criterion) (daemons : List Daemon)
    (w w' : World) : Prop where
  called : forall p, p ∈ addedPids (w.eventsSince w') <->
    exists d, d ∈ daemons ∧ c.Satisfied lib d ∧ d.pid = p
  replied : forall p, p ∈ answeredPids (w.eventsSince w') <->
    exists d, d ∈ daemons ∧ c.Satisfied lib d ∧ d.pid = p
  fails : RequestFails w w' <->
    ¬ exists d, d ∈ daemons ∧ c.Satisfied lib d
  failed : RequestFails w w' ->
    w'.Idle ∧ addedPids (w.eventsSince w') = []

theorem tracesExactly_of_accepted (hints : ReadsInts lib) (hvalid : c.Valid)
    (haccepted : AcceptedStart lib (c.args level) daemons w rc w')
    (hserved : Served w (Request.traceStart queryJ) rc w') :
    TracesExactly lib c daemons w w' := by
  have hvisited : forall p,
      p ∈ visitedPids (plan lib (c.args level) daemons) <->
        exists d, d ∈ daemons ∧ c.Satisfied lib d ∧ d.pid = p :=
    fun p => mem_visitedPids_iff hints hvalid
  have hfails : RequestFails w w' <->
      visitedPids (plan lib (c.args level) daemons) = [] := by
    rw [hserved.answered.requestFails_iff]
    constructor
    · intro hrc
      by_contra hne
      exact hrc (haccepted.started hne).left
    · intro hnil
      rw [(haccepted.failed hnil).left]
      exact errorCode_ne_zero
  constructor
  · rw [haccepted.added]
    exact hvisited
  · rw [haccepted.answered]
    exact hvisited
  · rw [hfails, List.eq_nil_iff_forall_not_mem]
    constructor
    · intro hnone h
      rcases h with ⟨d, hd, hsatisfied⟩
      exact hnone d.pid ((hvisited _).mpr ⟨d, hd, hsatisfied, rfl⟩)
    · intro hnone p hp
      rcases (hvisited p).mp hp with ⟨d, hd, hsatisfied, _⟩
      exact hnone ⟨d, hd, hsatisfied⟩
  · intro h
    have hnil := hfails.mp h
    rw [haccepted.added]
    exact ⟨(haccepted.failed hnil).right, hnil⟩

theorem tracesExactly_of_no_memory (hnone : c = pids [])
    (hlog : exists e, w'.log =
      w.log ++ [e, Event.fail "failed" "out of memory"] ∧
        e.isAllocation = true) (hidle : w'.Idle) :
    TracesExactly lib c daemons w w' := by
  rcases hlog with ⟨e, hlog, he⟩
  have hsince := World.eventsSince_of_log hlog
  have hadded : addedPids (w.eventsSince w') = [] := by
    rw [hsince]
    cases e <;> first | rfl | cases he
  have hanswered : answeredPids (w.eventsSince w') = [] := by
    rw [hsince]
    cases e <;> first | rfl | cases he
  have hfails : RequestFails w w' :=
    ⟨"failed", "out of memory", by simp [hsince]⟩
  subst hnone
  constructor
  · simp [hadded, Satisfied]
  · simp [hanswered, Satisfied]
  · simp [hfails, Satisfied]
  · exact fun _ => ⟨hidle, hadded⟩

/-- One criterion traces exactly the daemons that satisfy it. -/
theorem traceStart_tracesExactly (hadds : AcceptsAdds env)
    (halloc : AllocationsSucceed env) (hints : ReadsInts lib)
    (hquery : lib.unpackQuery queryJ = some q)
    (hargs : TraceArgs.ofQuery q = c.args level) (hvalid : c.Valid)
    (hidle : w.Idle)
    (hcollects : CollectsDaemons lib env apiname (c.args level) w daemons)
    (hformed : forall d, d ∈ daemons -> d.WellFormed) :
    exists rc w', (traceStart lib env apiname queryJ).run w = .ok rc w' ∧
      TracesExactly lib c daemons w w' := by
  have hset := not_unset_args hvalid level
  rw [run_traceStart_of_query hquery, hargs]
  cases hprefill : (prefillRecord lib env (c.args level)).run w with
  | ok u w1 =>
      rcases hcollects.listsDaemons hprefill with ⟨w2, hlists⟩
      rcases acceptedStart_cases hadds halloc hset hidle hlists with
        ⟨_, rc, w', hrun, haccepted⟩ | ⟨hcrash, _⟩
      · have hserved := served_traceStartArgs hidle hquery hargs hrun
        exact ⟨rc, w', hrun,
          tracesExactly_of_accepted hints hvalid haccepted hserved⟩
      · exact absurd hcrash (crash_notMem_plan hformed)
  | error e w1 =>
      rcases prefills_or_empty halloc lib c level w with
        ⟨w2, hok⟩ | hnone
      · rw [hok] at hprefill
        cases hprefill
      · rcases prefillRecord_cases hidle lib env (c.args level) with
          ⟨w2, hok, _⟩ | ⟨w2, alloc, herror, hlog, he⟩
        · rw [hok] at hprefill
          cases hprefill
        · exact ⟨errorCode, w2.clearRecord,
            run_traceStartArgs_of_prefill_error hset hidle.num herror,
            tracesExactly_of_no_memory hnone ⟨alloc, hlog, he⟩
              (World.clearRecord_idle w2)⟩

/-- The socket name of the first daemon, which the second one uses. -/
theorem traceStart_tracesExactly_fleet :
    exists daemons rc w',
      CollectsDaemons fleetLibs (fleetEnv pairFleet) (some "xds")
          ((ws "gps").args none) World.initial daemons ∧
        daemons.map Daemon.pid = [10, 20] ∧
        (traceStart fleetLibs (fleetEnv pairFleet) (some "xds")
          (wsQuery "gps")).run World.initial = .ok rc w' ∧
        TracesExactly fleetLibs (ws "gps") daemons World.initial w' := by
  have hreturns : returnsWith
      (fun found _ =>
        decide ((tableDaemons found.2).map Daemon.pid = [10, 20]) &&
          (tableDaemons found.2).all
            fun d => d.wsServers.isArray && d.wsClients.isArray)
      ((getDaemons fleetLibs (fleetEnv pairFleet) (some "xds")).run
        World.initial) = true := by
    decide +kernel
  rcases exists_of_returnsWith hreturns with ⟨found, w1, hget, hcheck⟩
  rcases Bool.and_eq_true_iff.mp hcheck with ⟨hpids, harrays⟩
  have hformed : forall d, d ∈ tableDaemons found.2 -> d.WellFormed := by
    intro d hd
    have hboth := Bool.and_eq_true_iff.mp (List.all_eq_true.mp harrays d hd)
    exact ⟨hboth.left, hboth.right⟩
  have hcollects := collectsDaemons_of_getDaemons
    (a := (ws "gps").args none) (run_prefillRecord_of_none rfl World.initial)
    hget
  have hints : ReadsInts fleetLibs := fun _ _ => rfl
  have hvalid : (ws "gps").Valid := by
    show "gps" ≠ ""
    decide
  have hquery : fleetLibs.unpackQuery (wsQuery "gps") =
      some ⟨none, none, some "gps", none⟩ := rfl
  rcases traceStart_tracesExactly (fleetEnv_acceptsAdds pairFleet)
    (fleetEnv_allocationsSucceed pairFleet) hints hquery rfl hvalid
    World.initial_idle hcollects hformed with ⟨rc, w', hrun, htraces⟩
  exact ⟨tableDaemons found.2, rc, w', hcollects, of_decide_eq_true hpids,
    hrun, htraces⟩

end Criterion

end Supervisor
end XdsService
