import XdsService.Supervisor.Collection

/-!
# getDaemons computes the fold

The callback ends as the outcome of the answers says, and the collection as
the fold of the outcomes over the return code and the table.
-/

namespace XdsService
namespace Supervisor

open Foundation
open Program

variable {lib : Libs} {env : Env} {ignoredDaemon : Option String}
variable {w : World} {reply : Reply}

/-- How the callback ends in the world `w`. -/
def callbackResult (w : World) :
    Except Fault (Int × DaemonTable) -> EStateM.Result Exit World DecodeClosure
  | .ok sofar => .ok ⟨some sofar.2, sofar.1⟩ w
  | .error f => .error (Exit.fault f) w

theorem callbackResult_eq_ok {result : Except Fault (Int × DaemonTable)}
    {closure : DecodeClosure} {w' : World}
    (h : callbackResult w result = .ok closure w') :
    exists sofar, result = .ok sofar ∧ closure = ⟨some sofar.2, sofar.1⟩ ∧
      w' = w := by
  cases result with
  | ok sofar =>
      cases h
      exact ⟨sofar, rfl, rfl, rfl⟩
  | error f => cases h

/-!
## The callback computes the outcome
-/

theorem decodeConfig_cases (hrc : ¬ reply.rc < 0) (pid : Int) (w : World) :
    (exists d, configOutcome lib ignoredDaemon pid reply = Outcome.found d ∧
        (decodeConfig lib ignoredDaemon { Daemon.zeroed with pid := pid }
          reply.response).run w = .ok (some d) w) ∨
      (configOutcome lib ignoredDaemon pid reply = Outcome.skipped ∧
        (decodeConfig lib ignoredDaemon { Daemon.zeroed with pid := pid }
          reply.response).run w = .ok none w) ∨
      (exists f,
        configOutcome lib ignoredDaemon pid reply = Outcome.crashed f ∧
        (decodeConfig lib ignoredDaemon { Daemon.zeroed with pid := pid }
          reply.response).run w = .error (Exit.fault f) w) := by
  unfold decodeConfig configOutcome
  rw [if_neg hrc]
  cases reply.response.getEx "response" with
  | none => exact Or.inl ⟨_, rfl, rfl⟩
  | some config =>
      cases hparts : lib.unpackConfig config with
      | none =>
          simp only [hparts]
          exact Or.inr (Or.inl ⟨trivial, rfl⟩)
      | some parts =>
          simp only [hparts]
          cases isIgnored ignoredDaemon (configName lib parts.name) with
          | true =>
              rw [if_pos rfl, if_pos rfl]
              exact Or.inr (Or.inl ⟨rfl, rfl⟩)
          | false =>
              simp only [arrayItems, Bool.false_eq_true, if_false]
              cases parts.wsServers.items? with
              | none => exact Or.inr (Or.inr ⟨_, rfl, rfl⟩)
              | some servers =>
                  cases parts.wsClients.items? with
                  | none => exact Or.inr (Or.inr ⟨_, rfl, rfl⟩)
                  | some clients => exact Or.inl ⟨_, rfl, rfl⟩

theorem decodeApis_cases (hrc : ¬ reply.rc < 0) (d : Daemon) (w : World) :
    (exists stored, apisOutcome d reply = Outcome.found stored ∧
        (decodeApis d reply.response).run w = .ok stored w) ∨
      (exists f, apisOutcome d reply = Outcome.crashed f ∧
        (decodeApis d reply.response).run w = .error (Exit.fault f) w) := by
  unfold decodeApis apisOutcome
  rw [if_neg hrc]
  cases (reply.response.getEx "response").bind (Json.getEx "apis") with
  | none => exact Or.inl ⟨_, rfl, rfl⟩
  | some apis =>
      cases apis with
      | object members => exact Or.inl ⟨_, rfl, rfl⟩
      | _ => exact Or.inr ⟨_, rfl, rfl⟩

theorem run_storeDaemon (table : DaemonTable) (rc : Int) (d : Daemon)
    (w : World) :
    (storeDaemon ⟨some table, rc⟩ table d).run w =
      callbackResult w (applyOutcome (rc, table) (Outcome.found d)) := by
  unfold storeDaemon
  cases hpush : table.push d with
  | some table' =>
      rw [applyOutcome_of_push hpush]
      rfl
  | none =>
      rw [applyOutcome_of_full hpush]
      rfl

/-- Behind an accepted config: the do call and the store. -/
theorem run_fetchApis {d : Daemon} (table : DaemonTable) (rc pid : Int)
    (w : World) :
    (do
      let reply <- serviceSync env (Call.getApis pid)
      if reply.rc < 0 then
        pure ⟨some table, rc⟩
      else do
        let daemon <- decodeApis d reply.response
        storeDaemon ⟨some table, rc⟩ table daemon : Handler _).run w =
      callbackResult
        (w.emit (Event.service (Call.getApis pid)
          (env.service w.log (Call.getApis pid))))
        (applyOutcome (rc, table)
          (apisOutcome d (env.service w.log (Call.getApis pid)))) := by
  rw [run_bind_of_ok (run_serviceSync env w (Call.getApis pid))]
  by_cases hrc : (env.service w.log (Call.getApis pid)).rc < 0
  · rw [if_pos hrc, apisOutcome, if_pos hrc]
    rfl
  · rw [if_neg hrc]
    rcases decodeApis_cases hrc d (w.emit (Event.service (Call.getApis pid)
      (env.service w.log (Call.getApis pid)))) with
      ⟨stored, houtcome, hrun⟩ | ⟨f, houtcome, hrun⟩
    · rw [run_bind_of_ok hrun, houtcome, run_storeDaemon]
    · rw [run_bind_of_error hrun, houtcome]
      rfl

theorem run_fetchDaemon (table : DaemonTable) (rc pid : Int) {w : World}
    {config apis : Reply}
    (hconfig : env.service w.log (Call.config pid) = config)
    (hapis : env.service (w.log ++ [Event.service (Call.config pid) config])
      (Call.getApis pid) = apis) :
    exists w',
      w'.log = w.log ++ askedEvents lib ignoredDaemon pid config apis ∧
      (fetchDaemon lib env ignoredDaemon ⟨some table, rc⟩ table pid).run w =
        callbackResult w' (applyOutcome (rc, table)
          (askedOutcome lib ignoredDaemon pid config apis)) := by
  have hcall : (serviceSync env (Call.config pid)).run w =
      .ok config (w.emit (Event.service (Call.config pid) config)) := by
    rw [run_serviceSync, hconfig]
  unfold fetchDaemon askedEvents askedOutcome
  rw [run_bind_of_ok hcall]
  by_cases hrc : config.rc < 0
  · have houtcome : configOutcome lib ignoredDaemon pid config =
        Outcome.configFailed config.rc := if_pos hrc
    rw [houtcome, if_pos hrc]
    exact ⟨_, rfl, rfl⟩
  · rw [if_neg hrc]
    rcases decodeConfig_cases hrc pid
        (w.emit (Event.service (Call.config pid) config)) with
      ⟨d, houtcome, hrun⟩ | ⟨houtcome, hrun⟩ | ⟨f, houtcome, hrun⟩
    · rw [houtcome, run_bind_of_ok hrun]
      subst hapis
      refine ⟨_, ?_, run_fetchApis table rc pid _⟩
      simp only [World.emit_log, List.append_assoc, List.singleton_append]
    · rw [houtcome, run_bind_of_ok hrun]
      exact ⟨_, rfl, rfl⟩
    · rw [houtcome, run_bind_of_error hrun]
      exact ⟨_, rfl, rfl⟩

theorem run_decodeDaemonsCb (table : DaemonTable) (rc : Int) (obj : Json)
    (w : World) :
    exists w',
      w'.log = w.log ++
        (answersAbout lib env w.log obj).events lib ignoredDaemon ∧
      (decodeDaemonsCb lib env ignoredDaemon ⟨some table, rc⟩ obj).run w =
        callbackResult w' (applyOutcome (rc, table)
          ((answersAbout lib env w.log obj).outcome lib ignoredDaemon)) := by
  unfold decodeDaemonsCb
  rw [run_bind_of_ok (run_allocate env w Allocation.callocDaemon)]
  unfold Answers.outcome Answers.events answersAbout
  cases hcred : lib.unpackCred obj with
  | none => exact ⟨_, rfl, rfl⟩
  | some pid =>
      simp only [Option.getD_some]
      cases halloc : env.alloc w.log Allocation.callocDaemon with
      | false => exact ⟨_, rfl, rfl⟩
      | true =>
          simp only [if_true]
          rcases @run_fetchDaemon lib env ignoredDaemon table rc pid
            (w.emit (Event.alloc Allocation.callocDaemon true)) _ _ rfl rfl with
            ⟨w', hlog, hrun⟩
          refine ⟨w', ?_, hrun⟩
          rw [hlog, World.emit_log, List.append_assoc, List.singleton_append]

/-!
## The collection computes the fold
-/

theorem run_foldlM_decodeDaemonsCb (objs : List Json) (table : DaemonTable)
    (rc : Int) (w : World) :
    exists w',
      (objs.foldlM (decodeDaemonsCb lib env ignoredDaemon)
          ⟨some table, rc⟩).run w =
        callbackResult w' (applyAll
          ((answersToAll lib env ignoredDaemon w.log objs).map
            (Answers.outcome lib ignoredDaemon)) (rc, table)) ∧
      forall sofar, applyAll
          ((answersToAll lib env ignoredDaemon w.log objs).map
            (Answers.outcome lib ignoredDaemon)) (rc, table) = .ok sofar ->
        w'.log = w.log ++ (answersToAll lib env ignoredDaemon w.log objs).flatMap
          (Answers.events lib ignoredDaemon) := by
  induction objs generalizing table rc w with
  | nil => exact ⟨w, rfl, fun _ _ => (List.append_nil _).symm⟩
  | cons obj rest ih =>
      rcases @run_decodeDaemonsCb lib env ignoredDaemon table rc obj w with
        ⟨w1, hlog, hrun⟩
      rw [List.foldlM_cons]
      unfold answersToAll applyAll
      rw [List.map_cons, List.foldlM_cons]
      cases happly : applyOutcome (rc, table)
          ((answersAbout lib env w.log obj).outcome lib ignoredDaemon) with
      | error f =>
          rw [happly] at hrun
          refine ⟨w1, run_bind_of_error hrun, ?_⟩
          intro sofar hsofar
          cases hsofar
      | ok sofar =>
          rw [happly] at hrun
          rcases ih sofar.2 sofar.1 w1 with ⟨w2, hrest, hlogs⟩
          rw [hlog] at hrest hlogs
          refine ⟨w2, (run_bind_of_ok hrun).trans hrest, ?_⟩
          intro final hfinal
          rw [hlogs final hfinal, List.append_assoc]
          rfl

/-- How `getDaemons` ends in the world `w`. -/
def collectionResult (w : World) : Except Fault (Int × DaemonTable) ->
    EStateM.Result Exit World (Int × Option DaemonTable)
  | .ok sofar => .ok (sofar.1, some sofar.2) w
  | .error f => .error (Exit.fault f) w

def discoveredWorld (env : Env) (w : World) : World :=
  (w.emit (Event.alloc Allocation.callocDaemons
    (env.alloc w.log Allocation.callocDaemons))).emit
    (Event.service Call.discover (discoverReply env w.log))

def listedWorld (env : Env) (w : World) : World :=
  (discoveredWorld env w).emit (Event.service Call.list (listReply env w.log))

def allocatedTable (env : Env) (log : List Event) : Option DaemonTable :=
  if env.alloc log Allocation.callocDaemons then some DaemonTable.empty
  else none

section GetDaemons

variable {apiname : Option String}

theorem run_getDaemons_of_discover_fails
    (h : (discoverReply env w.log).rc < 0) :
    (getDaemons lib env apiname).run w =
      .ok ((discoverReply env w.log).rc, allocatedTable env w.log)
        (discoveredWorld env w) := by
  unfold getDaemons
  rw [run_bind_of_ok (run_allocate env w Allocation.callocDaemons)]
  have hcall : (serviceSync env Call.discover).run
      (w.emit (Event.alloc Allocation.callocDaemons
        (env.alloc w.log Allocation.callocDaemons))) =
      .ok (discoverReply env w.log) (discoveredWorld env w) := rfl
  unfold collectDaemons
  rw [run_bind_of_ok hcall, if_pos h]
  rfl

/-- Behind an accepted discover call the supervisor is asked for the list. -/
theorem run_getDaemons_of_discovered
    (h : 0 ≤ (discoverReply env w.log).rc) :
    (getDaemons lib env apiname).run w =
      (if (listReply env w.log).rc < 0 then
        pure ((listReply env w.log).rc, allocatedTable env w.log)
      else do
        let closure <- (listedDaemons lib (listReply env w.log).response).foldlM
          (decodeDaemonsCb lib env apiname)
          ⟨allocatedTable env w.log, (listReply env w.log).rc⟩
        pure (closure.retCode, closure.daemons) : Handler _).run
        (listedWorld env w) := by
  unfold getDaemons
  rw [run_bind_of_ok (run_allocate env w Allocation.callocDaemons)]
  have hdiscover : (serviceSync env Call.discover).run
      (w.emit (Event.alloc Allocation.callocDaemons
        (env.alloc w.log Allocation.callocDaemons))) =
      .ok (discoverReply env w.log) (discoveredWorld env w) := rfl
  have hlist : (serviceSync env Call.list).run (discoveredWorld env w) =
      .ok (listReply env w.log) (listedWorld env w) := rfl
  unfold collectDaemons
  rw [run_bind_of_ok hdiscover, if_neg (Int.not_lt.mpr h)]
  exact run_bind_of_ok hlist

theorem run_getDaemons_of_undiscovered (lib : Libs)
    (apiname : Option String) (h : ¬ Discovers env w.log) :
    exists rc w', rc < 0 ∧ (getDaemons lib env apiname).run w =
      .ok (rc, allocatedTable env w.log) w' := by
  by_cases hdiscover : (discoverReply env w.log).rc < 0
  · exact ⟨_, _, hdiscover, run_getDaemons_of_discover_fails hdiscover⟩
  · have hlist : (listReply env w.log).rc < 0 := by
      by_contra hlist
      exact h ⟨Int.not_lt.mp hdiscover, Int.not_lt.mp hlist⟩
    refine ⟨_, listedWorld env w, hlist, ?_⟩
    rw [run_getDaemons_of_discovered (Int.not_lt.mp hdiscover), if_pos hlist]
    rfl

/-- With a table `getDaemons` computes the fold of the outcomes. -/
theorem run_getDaemons (lib : Libs) (apiname : Option String)
    (halloc : env.alloc w.log Allocation.callocDaemons = true)
    (h : Discovers env w.log) :
    exists w', (getDaemons lib env apiname).run w =
        collectionResult w' (applyAll (collectedOutcomes lib env apiname w.log)
          ((listReply env w.log).rc, DaemonTable.empty)) ∧
      forall sofar, applyAll (collectedOutcomes lib env apiname w.log)
          ((listReply env w.log).rc, DaemonTable.empty) = .ok sofar ->
        w'.log = listLog env w.log ++
          (collectedAnswers lib env apiname w.log).flatMap
            (Answers.events lib apiname) := by
  rcases @run_foldlM_decodeDaemonsCb lib env apiname
    (listedDaemons lib (listReply env w.log).response) DaemonTable.empty
    (listReply env w.log).rc (listedWorld env w) with ⟨w', hrun, hlog⟩
  have htable : allocatedTable env w.log = some DaemonTable.empty := by
    unfold allocatedTable
    rw [halloc, if_pos rfl]
  rw [run_getDaemons_of_discovered h.discover,
    if_neg (Int.not_lt.mpr h.list), htable]
  refine ⟨w', ?_, hlog⟩
  change _ = callbackResult w' (applyAll (collectedOutcomes lib env apiname
    w.log) _) at hrun
  cases happly : applyAll (collectedOutcomes lib env apiname w.log)
      ((listReply env w.log).rc, DaemonTable.empty) with
  | ok sofar =>
      rw [happly] at hrun
      exact run_bind_of_ok hrun
  | error f =>
      rw [happly] at hrun
      exact run_bind_of_error hrun

theorem run_foldlM_of_no_table (objs : List Json) (rc : Int) (w : World) :
    exists w', (objs.foldlM (decodeDaemonsCb lib env ignoredDaemon)
      ⟨none, rc⟩).run w = .ok ⟨none, rc⟩ w' := by
  induction objs generalizing w with
  | nil => exact ⟨w, rfl⟩
  | cons obj rest ih =>
      rcases ih (w.emit (Event.alloc Allocation.callocDaemon
        (env.alloc w.log Allocation.callocDaemon))) with ⟨w', hrest⟩
      rw [List.foldlM_cons]
      exact ⟨w', hrest⟩

theorem run_getDaemons_of_no_table (lib : Libs) (apiname : Option String)
    (halloc : env.alloc w.log Allocation.callocDaemons = false) :
    exists rc w', (getDaemons lib env apiname).run w = .ok (rc, none) w' := by
  have htable : allocatedTable env w.log = none := by
    unfold allocatedTable
    rw [halloc]
    rfl
  by_cases h : Discovers env w.log
  · rcases @run_foldlM_of_no_table lib env apiname
      (listedDaemons lib (listReply env w.log).response)
      (listReply env w.log).rc (listedWorld env w) with ⟨w', hrun⟩
    rw [run_getDaemons_of_discovered h.discover,
      if_neg (Int.not_lt.mpr h.list), htable]
    exact ⟨_, w', run_bind_of_ok hrun⟩
  · rcases run_getDaemons_of_undiscovered lib apiname h with
      ⟨rc, w', _, hrun⟩
    rw [htable] at hrun
    exact ⟨rc, w', hrun⟩

/-- A collection that breaks off does so in its fold. -/
theorem getDaemons_eq_error {e : Exit} {w' : World}
    (h : (getDaemons lib env apiname).run w = .error e w') :
    env.alloc w.log Allocation.callocDaemons = true ∧ Discovers env w.log ∧
      exists f, e = Exit.fault f ∧
        applyAll (collectedOutcomes lib env apiname w.log)
          ((listReply env w.log).rc, DaemonTable.empty) = .error f := by
  by_cases hdiscovers : Discovers env w.log
  · cases halloc : env.alloc w.log Allocation.callocDaemons with
    | false =>
        rcases run_getDaemons_of_no_table lib apiname halloc with
          ⟨rc, w1, hrun⟩
        rw [hrun] at h
        cases h
    | true =>
        rcases run_getDaemons lib apiname halloc hdiscovers with ⟨w1, hrun, _⟩
        rw [hrun] at h
        cases happly : applyAll (collectedOutcomes lib env apiname w.log)
            ((listReply env w.log).rc, DaemonTable.empty) with
        | ok sofar =>
            rw [happly] at h
            cases h
        | error f =>
            rw [happly] at h
            cases h
            exact ⟨rfl, hdiscovers, f, rfl, rfl⟩
  · rcases run_getDaemons_of_undiscovered lib apiname hdiscovers with
      ⟨rc, w1, _, hrun⟩
    rw [hrun] at h
    cases h

end GetDaemons

end Supervisor
end XdsService
