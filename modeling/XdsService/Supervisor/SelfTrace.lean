import Mathlib.Data.List.Nodup
import XdsService.Supervisor.Accepted
import XdsService.Supervisor.Collecting
import XdsService.Supervisor.Readable

/-!
# The service never traces itself

A daemon whose config names the API of the plugin is left out where its config is
decoded.  Each daemon in the table goes back to the one config reply for
its pid, and whatever the requests trace or list comes from the table.
-/

namespace XdsService
namespace Supervisor

open Foundation
open Program

variable {lib : Libs} {env : Env} {api : String}
variable {a : TraceArgs} {d : Daemon} {daemons : List Daemon}
variable {w0 w w1 w' : World} {rc : Int} {request : Request}
variable {moves : List RequestMove}

/-!
## Config replies
-/

/-- The config calls of a list of events, with the answers. -/
def configCalls (events : List Event) : List (Int × Reply) :=
  events.filterMap fun
    | Event.service (Call.config pid) reply => some (pid, reply)
    | _ => none

@[simp] theorem configCalls_append (first second : List Event) :
    configCalls (first ++ second) = configCalls first ++ configCalls second :=
  List.filterMap_append

/-- The reply was accepted and holds a config whose name is not the API's. -/
def NamesOther (lib : Libs) (api : String) (reply : Reply) : Prop :=
  0 ≤ reply.rc ∧
    exists config parts,
      reply.response.getEx "response" = some config ∧
        lib.unpackConfig config = some parts ∧
        forall name, configName lib parts.name = some name ->
          ¬ api.toList <:+: name.toList

/-- One config reply came for the pid, and it names another service. -/
def Foreign (lib : Libs) (api : String) (events : List Event) (p : Int) :
    Prop :=
  exists reply, NamesOther lib api reply ∧
    forall r, (p, r) ∈ configCalls events <-> r = reply

theorem Foreign.congr {events events' : List Event} {p : Int}
    (h : Foreign lib api events p)
    (hcalls : configCalls events' = configCalls events) :
    Foreign lib api events' p := by
  rcases h with ⟨reply, hother, hone⟩
  rw [← hcalls] at hone
  exact ⟨reply, hother, hone⟩

def ListsDistinctPids (lib : Libs) (env : Env) : Prop :=
  forall log, 0 ≤ (env.service log Call.list).rc ->
    ((listedDaemons lib (env.service log Call.list).response).filterMap
      lib.unpackCred).Nodup

/-- Every accepted config reply carries a response object. -/
def AnswersConfigs (env : Env) : Prop :=
  forall log pid, 0 ≤ (env.service log (Call.config pid)).rc ->
    exists members,
      (env.service log (Call.config pid)).response.getEx "response" =
        some (Json.object members)

theorem not_infix_of_isIgnored {name : Option String}
    (h : isIgnored (some api) name = false) :
    forall text, name = some text -> ¬ api.toList <:+: text.toList := by
  intro text heq hinfix
  subst heq
  have hcontains : strstr text api = true := strstr_iff.mpr hinfix
  have hignored : strstr text api = false := h
  rw [hcontains] at hignored
  cases hignored

/-!
## Decoding one daemon
-/

/-- What one call of the callback adds to the log and to the table. -/
inductive Collects (lib : Libs) (api : String) (obj : Json)
    (before : List Daemon) : List Event -> List Daemon -> Prop where
  | nothing {events : List Event} :
      configCalls events = [] -> Collects lib api obj before events before
  | asked {events : List Event} (pid : Int) (reply : Reply) :
      lib.unpackCred obj = some pid -> configCalls events = [(pid, reply)] ->
      Collects lib api obj before events before
  | stored {events : List Event} (d : Daemon) (reply : Reply) :
      lib.unpackCred obj = some d.pid ->
      configCalls events = [(d.pid, reply)] -> NamesOther lib api reply ->
      Collects lib api obj before events (before ++ [d])

theorem Collects.congr {obj : Json} {before after : List Daemon}
    {events events' : List Event}
    (h : Collects lib api obj before events after)
    (hcalls : configCalls events' = configCalls events) :
    Collects lib api obj before events' after := by
  cases h with
  | nothing hnone => exact Collects.nothing (hcalls.trans hnone)
  | asked pid reply hpid hone =>
      exact Collects.asked pid reply hpid (hcalls.trans hone)
  | stored d reply hpid hone hother =>
      exact Collects.stored d reply hpid (hcalls.trans hone) hother

theorem configCalls_askedEvents (apiname : Option String) (pid : Int)
    (config apis : Reply) :
    configCalls (askedEvents lib apiname pid config apis) = [(pid, config)] := by
  unfold askedEvents
  cases configOutcome lib apiname pid config with
  | _ => rfl

theorem collects_of_unchanged (log : List Event) (obj : Json)
    (before : List Daemon) :
    Collects lib api obj before
      ((answersAbout lib env log obj).events lib (some api)) before := by
  unfold Answers.events answersAbout
  cases hcred : lib.unpackCred obj with
  | none => exact Collects.nothing rfl
  | some pid =>
      cases env.alloc log Allocation.callocDaemon with
      | false => exact Collects.nothing rfl
      | true =>
          exact Collects.asked pid _ hcred
            (configCalls_askedEvents (some api) pid _ _)

theorem collects_of_found (hconfigs : AnswersConfigs env) (log : List Event)
    (obj : Json) (before : List Daemon)
    (h : (answersAbout lib env log obj).outcome lib (some api) =
      Outcome.found d) :
    Collects lib api obj before
      ((answersAbout lib env log obj).events lib (some api))
      (before ++ [d]) := by
  have hreadable : (answersAbout lib env log obj).Readable lib (some api) :=
    (isCrash_iff _).mp (by rw [h]; rfl)
  have hlisted := entry_eq_listed hreadable
  rw [h] at hlisted
  rcases listed_eq_some hlisted.symm with
    ⟨haccepted, _, pid, described, hpid, hdescribed, rfl⟩
  rcases hconfigs _ _ haccepted with ⟨members, hresponse⟩
  rcases describedDaemon_eq_some hresponse hdescribed with
    ⟨parts, hparts, hignored, rfl⟩
  have hmemory := hreadable.memory (hpid ▸ Option.some_ne_none pid)
  have hevents : configCalls ((answersAbout lib env log obj).events lib
      (some api)) = [(pid, (answersAbout lib env log obj).config)] := by
    unfold Answers.events
    rw [hpid, hmemory]
    exact configCalls_askedEvents (some api) pid _ _
  apply Collects.stored _ (answersAbout lib env log obj).config
  · rw [withApis_pid]
    exact hpid
  · rw [withApis_pid]
    exact hevents
  · exact ⟨haccepted, _, parts, hresponse, hparts,
      not_infix_of_isIgnored hignored⟩

theorem collects_of_applyOutcome (hconfigs : AnswersConfigs env)
    {log : List Event} {obj : Json} {sofar next : Int × DaemonTable}
    (h : applyOutcome sofar
      ((answersAbout lib env log obj).outcome lib (some api)) = .ok next) :
    Collects lib api obj sofar.2.daemons
      ((answersAbout lib env log obj).events lib (some api))
      next.2.daemons := by
  cases houtcome : (answersAbout lib env log obj).outcome lib (some api) with
  | crashed f =>
      rw [houtcome] at h
      cases h
  | skipped =>
      rw [houtcome] at h
      cases h
      exact collects_of_unchanged log obj _
  | configFailed rc =>
      rw [houtcome] at h
      cases h
      exact collects_of_unchanged log obj _
  | found d =>
      rw [houtcome] at h
      cases hpush : sofar.2.push d with
      | none =>
          rw [applyOutcome_of_full hpush] at h
          cases h
      | some table =>
          rw [applyOutcome_of_push hpush] at h
          cases h
          rw [DaemonTable.daemons_of_push hpush]
          exact collects_of_found hconfigs log obj _ houtcome

theorem decodeDaemonsCb_collects (hconfigs : AnswersConfigs env)
    {closure closure' : DecodeClosure} {obj : Json}
    (h : (decodeDaemonsCb lib env (some api) closure obj).run w =
      .ok closure' w') :
    exists events, w'.log = w.log ++ events ∧
      Collects lib api obj (tableDaemons closure.daemons) events
        (tableDaemons closure'.daemons) := by
  rcases closure with ⟨allocated, rc⟩
  cases allocated with
  | none =>
      cases h
      exact ⟨_, rfl, Collects.nothing rfl⟩
  | some table =>
      rcases @run_decodeDaemonsCb lib env (some api) table rc obj w with
        ⟨w1, hlog, hrun⟩
      rw [hrun] at h
      rcases callbackResult_eq_ok h with ⟨next, happly, rfl, rfl⟩
      exact ⟨_, hlog, collects_of_applyOutcome hconfigs happly⟩

/-!
## The table
-/

/-- The config calls made for `objs`, and the table that came out of them. -/
structure Collected (lib : Libs) (api : String) (objs : List Json)
    (events : List Event) (daemons : List Daemon) : Prop where
  calls : ((configCalls events).map Prod.fst).Sublist
    (objs.filterMap lib.unpackCred)
  stored : forall d, d ∈ daemons ->
    exists reply, (d.pid, reply) ∈ configCalls events ∧
      NamesOther lib api reply

theorem Collected.nil {events : List Event} (h : configCalls events = []) :
    Collected lib api [] events [] := by
  constructor
  · rw [h]
    exact List.Sublist.refl _
  · intro d hd
    cases hd

theorem Collected.snoc {objs : List Json} {obj : Json}
    {events new : List Event} {daemons after : List Daemon}
    (h : Collected lib api objs events daemons)
    (hnew : Collects lib api obj daemons new after) :
    Collected lib api (objs ++ [obj]) (events ++ new) after := by
  have hold : forall d, d ∈ daemons ->
      exists reply, (d.pid, reply) ∈ configCalls (events ++ new) ∧
        NamesOther lib api reply := by
    intro d hd
    rcases h.stored d hd with ⟨reply, hmem, hother⟩
    exact ⟨reply, by simp [hmem], hother⟩
  cases hnew with
  | nothing hnone =>
      refine ⟨?_, hold⟩
      rw [configCalls_append, hnone, List.append_nil, List.filterMap_append]
      exact h.calls.trans (List.sublist_append_left _ _)
  | asked pid reply hpid hcalls =>
      refine ⟨?_, hold⟩
      rw [configCalls_append, hcalls, List.map_append, List.filterMap_append]
      exact h.calls.append (by simp [hpid])
  | stored d reply hpid hcalls hother =>
      constructor
      · rw [configCalls_append, hcalls, List.map_append, List.filterMap_append]
        exact h.calls.append (by simp [hpid])
      · intro d' hd'
        rcases List.mem_append.mp hd' with hd' | hd'
        · exact hold d' hd'
        · rw [List.mem_singleton.mp hd']
          exact ⟨reply, by simp [hcalls], hother⟩

theorem foldlM_collected (hconfigs : AnswersConfigs env)
    {done objs : List Json} {events : List Event}
    {closure closure' : DecodeClosure}
    (h : Collected lib api done events (tableDaemons closure.daemons))
    (hrun : (objs.foldlM (decodeDaemonsCb lib env (some api)) closure).run w =
      .ok closure' w') :
    exists new, w'.log = w.log ++ new ∧
      Collected lib api (done ++ objs) (events ++ new)
        (tableDaemons closure'.daemons) := by
  induction objs generalizing done events closure w with
  | nil =>
      cases hrun
      exact ⟨[], (List.append_nil _).symm, by simpa using h⟩
  | cons obj rest ih =>
      rw [List.foldlM_cons] at hrun
      rcases run_bind_eq_ok hrun with ⟨closure1, w1, hobj, hrest⟩
      rcases decodeDaemonsCb_collects hconfigs hobj with
        ⟨first, hfirst, hcollects⟩
      rcases ih (h.snoc hcollects) hrest with ⟨second, hsecond, hcollected⟩
      refine ⟨first ++ second, ?_, ?_⟩
      · rw [hsecond, hfirst, List.append_assoc]
      · simpa using hcollected

theorem foreign_of_collected {objs : List Json} {events : List Event}
    (h : Collected lib api objs events daemons)
    (hdistinct : (objs.filterMap lib.unpackCred).Nodup) (hd : d ∈ daemons) :
    Foreign lib api events d.pid := by
  have hnodup := hdistinct.sublist h.calls
  rcases h.stored d hd with ⟨reply, hmem, hother⟩
  refine ⟨reply, hother, fun r => ?_⟩
  constructor
  · intro hr
    have hpair := List.inj_on_of_nodup_map hnodup hr hmem rfl
    exact congrArg Prod.snd hpair
  · intro heq
    rw [heq]
    exact hmem

theorem tableDaemons_allocatedTable (env : Env) (log : List Event) :
    tableDaemons (allocatedTable env log) = [] := by
  unfold allocatedTable
  split
  · rfl
  · rfl

/-- All daemons that were collected go back to a config of another service. -/
theorem foreign_of_getDaemons (hdistinct : ListsDistinctPids lib env)
    (hconfigs : AnswersConfigs env) {found : Int × Option DaemonTable}
    (h : (getDaemons lib env (some api)).run w = .ok found w') :
    exists events, w'.log = w.log ++ events ∧
      forall d, d ∈ tableDaemons found.2 -> Foreign lib api events d.pid := by
  by_cases hdiscovers : Discovers env w.log
  · rw [run_getDaemons_of_discovered hdiscovers.discover,
      if_neg (Int.not_lt.mpr hdiscovers.list)] at h
    rcases run_bind_eq_ok h with ⟨closure, w1, hfold, h⟩
    cases h
    have hnil : Collected lib api [] []
        (tableDaemons (allocatedTable env w.log)) := by
      rw [tableDaemons_allocatedTable]
      exact Collected.nil rfl
    rcases foldlM_collected hconfigs hnil hfold with ⟨new, hlog, hcollected⟩
    have hnodup := hdistinct _ hdiscovers.list
    let asked := [
      Event.alloc Allocation.callocDaemons
        (env.alloc w.log Allocation.callocDaemons),
      Event.service Call.discover (discoverReply env w.log),
      Event.service Call.list (listReply env w.log)]
    refine ⟨asked ++ new, ?_, fun d hd =>
      (foreign_of_collected hcollected hnodup hd).congr rfl⟩
    rw [hlog]
    simp only [listedWorld, discoveredWorld, World.emit_log,
      List.append_assoc]
    rfl
  · rcases run_getDaemons_of_undiscovered lib (some api) hdiscovers with
      ⟨rc, w1, _, hrun⟩
    rcases ((quiet_getDaemons lib env (some api)).ok h).log with
      ⟨events, hlog, _⟩
    rw [hrun] at h
    cases h
    refine ⟨events, hlog, fun d hd => ?_⟩
    rw [tableDaemons_allocatedTable] at hd
    cases hd

/-!
## Requests
-/

/-- Neither a traced pid nor a listed one belongs to the service itself. -/
structure NeverSelf (lib : Libs) (api : String) (events : List Event) :
    Prop where
  traces : forall p, p ∈ addedPids events -> Foreign lib api events p
  lists : forall items info item,
    Event.success (Payload.daemons items) info ∈ events ->
    some item ∈ items -> Foreign lib api events item.pid

theorem configCalls_of_isTracing {events : List Event}
    (h : forall e, e ∈ events -> e.isTracing = true) :
    configCalls events = [] := by
  apply List.filterMap_eq_nil_iff.mpr
  intro e he
  have htracing := h e he
  cases e with
  | service call reply =>
      cases call <;> first | rfl | cases htracing
  | _ => rfl

theorem configCalls_of_isAnswer {answer : Event}
    (h : answer.isAnswer = true) : configCalls [answer] = [] := by
  cases answer <;> first | rfl | cases h

/-- Discovery, then tracing of what was found. -/
theorem neverSelf_of_unanswered {found tracing : List Event}
    (hfound : forall e, e ∈ found -> e.isDiscovery = true)
    (htracing : forall e, e ∈ tracing -> e.isTracing = true)
    (hadded : forall p, p ∈ addedPids tracing -> Foreign lib api found p) :
    NeverSelf lib api (found ++ tracing) := by
  constructor
  · intro p hp
    rw [addedPids_append, addedPids_of_isDiscovery hfound,
      List.nil_append] at hp
    apply (hadded p hp).congr
    rw [configCalls_append, configCalls_of_isTracing htracing,
      List.append_nil]
  · intro items info item hmem
    rcases List.mem_append.mp hmem with hmem | hmem
    · cases hfound _ hmem
    · cases htracing _ hmem

theorem NeverSelf.answered {events : List Event} {answer : Event}
    (h : NeverSelf lib api events) (hanswer : answer.isAnswer = true)
    (hlisted : forall items info item,
      answer = Event.success (Payload.daemons items) info ->
      some item ∈ items -> Foreign lib api events item.pid) :
    NeverSelf lib api (events ++ [answer]) := by
  have hcalls : configCalls (events ++ [answer]) = configCalls events := by
    rw [configCalls_append, configCalls_of_isAnswer hanswer, List.append_nil]
  constructor
  · intro p hp
    rw [addedPids_append, addedPids_of_isAnswer hanswer,
      List.append_nil] at hp
    exact (h.traces p hp).congr hcalls
  · intro items info item hmem hitem
    rcases List.mem_append.mp hmem with hmem | hmem
    · exact (h.lists items info item hmem hitem).congr hcalls
    · exact (hlisted items info item (List.mem_singleton.mp hmem).symm
        hitem).congr hcalls

/-- Discovery, then tracing of what was found, then one answer. -/
theorem neverSelf_of_events {found tracing : List Event} {answer : Event}
    (hfound : forall e, e ∈ found -> e.isDiscovery = true)
    (htracing : forall e, e ∈ tracing -> e.isTracing = true)
    (hanswer : answer.isAnswer = true)
    (hadded : forall p, p ∈ addedPids tracing -> Foreign lib api found p)
    (hlisted : forall items info item,
      answer = Event.success (Payload.daemons items) info ->
      some item ∈ items -> Foreign lib api found item.pid) :
    NeverSelf lib api (found ++ (tracing ++ [answer])) := by
  rw [← List.append_assoc]
  apply (neverSelf_of_unanswered hfound htracing hadded).answered hanswer
  intro items info item heq hitem
  apply (hlisted items info item heq hitem).congr
  rw [configCalls_append, configCalls_of_isTracing htracing, List.append_nil]

theorem neverSelf_of_answer {answer : Event} (hanswer : answer.isAnswer = true)
    (hpids : forall items info,
      answer ≠ Event.success (Payload.daemons items) info) :
    NeverSelf lib api [answer] := by
  show NeverSelf lib api ([] ++ ([] ++ [answer]))
  apply neverSelf_of_events (by simp) (by simp) hanswer
  · intro p hp
    cases hp
  · intro items info item heq
    exact absurd heq (hpids items info)

theorem run_prefillRecord_log
    (h : (prefillRecord lib env a).run w = .ok () w1) :
    exists events, w1.log = w.log ++ events ∧
      forall e, e ∈ events -> e.isAllocation = true := by
  cases hitems : a.pids.items? with
  | none =>
      rw [run_prefillRecord_of_none hitems] at h
      cases h
      exact ⟨[], by simp, by simp⟩
  | some items =>
      cases halloc : env.alloc w.log (Allocation.mallocPids items.length) with
      | true =>
          rw [run_prefillRecord_of_allocated hitems halloc] at h
          cases h
          exact ⟨_, rfl, by simp [Event.isAllocation]⟩
      | false =>
          rcases run_prefillRecord_of_not_allocated hitems halloc with
            ⟨w2, hrun, _⟩
          rw [hrun] at h
          cases h

theorem foreign_of_listsDaemons (hdistinct : ListsDistinctPids lib env)
    (hconfigs : AnswersConfigs env)
    (h : ListsDaemons lib env (some api) a w daemons w1) :
    exists found, w1.log = w.log ++ found ∧
      (forall e, e ∈ found -> e.isDiscovery = true) ∧
      forall d, d ∈ daemons -> Foreign lib api found d.pid := by
  rcases h with ⟨table, hrun, rfl⟩
  rcases run_bind_eq_ok hrun with ⟨_, w2, hprefill, hget⟩
  rcases run_prefillRecord_log hprefill with ⟨first, hfirst, hallocs⟩
  rcases foreign_of_getDaemons hdistinct hconfigs hget with
    ⟨second, hsecond, hforeign⟩
  rcases ((quiet_getDaemons lib env (some api)).ok hget).log with
    ⟨second', hsecond', hdiscovery⟩
  have hsame : second' = second :=
    List.append_cancel_left (hsecond'.symm.trans hsecond)
  rw [hsame] at hdiscovery
  have hnone : configCalls first = [] := configCalls_of_isTracing
    fun e he => isTracing_of_isAllocation (hallocs e he)
  refine ⟨first ++ second, ?_, ?_, ?_⟩
  · rw [hsecond, hfirst, List.append_assoc]
  · intro e he
    rcases List.mem_append.mp he with he | he
    · exact isDiscovery_of_isAllocation (hallocs e he)
    · exact hdiscovery e he
  · intro d hd
    apply (hforeign d hd).congr
    rw [configCalls_append, hnone, List.nil_append]

theorem exists_daemon_of_mem_visitedPids {p : Int}
    (h : p ∈ visitedPids (plan lib a daemons)) :
    exists d, d ∈ daemons ∧ d.pid = p := by
  rcases mem_visitedPids_plan.mp h with ⟨⟨d, hd, _, hpid⟩, hp⟩ | ⟨d, hd, hp, _⟩
  · exact ⟨d, hd, (hp.trans hpid).symm⟩
  · exact ⟨d, (List.takeWhile_sublist _).subset hd, hp.symm⟩

theorem neverSelf_of_searched (hdistinct : ListsDistinctPids lib env)
    (hconfigs : AnswersConfigs env)
    (hlists : ListsDaemons lib env (some api) a w daemons w1)
    {log tracing : List Event} {answer : Event}
    (htraced : log = w1.log ++ tracing) (hanswered : w'.log = log ++ [answer])
    (htracing : forall e, e ∈ tracing -> e.isTracing = true)
    (hadded : forall p, p ∈ addedPids tracing ->
      p ∈ visitedPids (plan lib a daemons))
    (hanswer : answer.isAnswer = true)
    (hpids : forall items info,
      answer ≠ Event.success (Payload.daemons items) info) :
    NeverSelf lib api (w.eventsSince w') := by
  rcases foreign_of_listsDaemons hdistinct hconfigs hlists with
    ⟨found, hfound, hdiscovery, hforeign⟩
  rw [htraced, hfound, List.append_assoc, List.append_assoc] at hanswered
  rw [World.eventsSince_of_log hanswered]
  apply neverSelf_of_events hdiscovery htracing hanswer
  · intro p hp
    rcases exists_daemon_of_mem_visitedPids (hadded p hp) with ⟨d, hd, rfl⟩
    exact hforeign d hd
  · intro items info item heq
    exact absurd heq (hpids items info)

theorem neverSelf_of_outcome (hdistinct : ListsDistinctPids lib env)
    (hconfigs : AnswersConfigs env)
    (h : StartOutcome lib env (some api) a w rc w') :
    NeverSelf lib api (w.eventsSince w') := by
  cases h with
  | noMemory e hidle' hlog he =>
      rw [World.eventsSince_of_log hlog]
      show NeverSelf lib api
        ([] ++ ([e] ++ [Event.fail "failed" "out of memory"]))
      have hnone : addedPids [e] = [] :=
        addedPids_of_allocations (by simpa using he)
      apply neverSelf_of_events (by simp)
        (by simpa using isTracing_of_isAllocation he) rfl
      · intro p hp
        rw [hnone] at hp
        cases hp
      · intro items info item heq
        cases heq
  | noMatch hlists hdone hnone =>
      rcases hdone.log with ⟨tracing, hlog, htracing, hadded⟩
      exact neverSelf_of_searched hdistinct hconfigs hlists hlog rfl htracing
        (fun p hp => hadded ▸ hp) rfl (fun items info heq => by cases heq)
  | started hlists hdone hvisited =>
      rcases hdone.log with ⟨tracing, hlog, htracing, hadded⟩
      exact neverSelf_of_searched hdistinct hconfigs hlists hlog rfl htracing
        (fun p hp => hadded ▸ hp) rfl (fun items info heq => by cases heq)
  | refused hlists hplan =>
      cases planBroken_of_run_eq_error hplan with
      | refused tracing info hlog htracing hadded =>
          exact neverSelf_of_searched hdistinct hconfigs hlists rfl hlog
            htracing hadded rfl (fun items info heq => by cases heq)

theorem neverSelf_emit_fail (w : World) (status info : String) :
    NeverSelf lib api (w.eventsSince (w.emit (Event.fail status info))) := by
  rw [World.eventsSince_of_log (World.emit_log w _)]
  exact neverSelf_of_answer rfl (fun items info heq => by cases heq)

theorem neverSelf_traceStart {queryJ : Json}
    (hdistinct : ListsDistinctPids lib env) (hconfigs : AnswersConfigs env)
    (hinv : SessionInv w)
    (hrun : (traceStart lib env (some api) queryJ).run w = .ok rc w') :
    NeverSelf lib api (w.eventsSince w') := by
  cases startEntry_of_run hrun with
  | refused status info _ => exact neverSelf_emit_fail w status info
  | entered q hquery hset hnum hrun =>
      exact neverSelf_of_outcome hdistinct hconfigs
        (startOutcome_of_idle hset (hinv.idle hnum) hrun)

theorem neverSelf_traceStop (hinv : SessionInv w)
    (hrun : (traceStop env).run w = .ok rc w') :
    NeverSelf lib api (w.eventsSince w') := by
  rcases hinv with ⟨ps, hps, hnil⟩
  by_cases hempty : ps = []
  · rw [run_traceStop_of_idle env (hnil hempty).num] at hrun
    cases hrun
    exact neverSelf_emit_fail w _ _
  · rcases stopped_world hps hempty hrun with ⟨_, _, hlog, _⟩
    rw [List.append_assoc] at hlog
    rw [World.eventsSince_of_log hlog]
    show NeverSelf lib api ([] ++ (dropEvents env w.log ps ++
      [stopAnswer (rejectedDrops env w.log ps)]))
    have hanswer : (stopAnswer (rejectedDrops env w.log ps)).isAnswer = true := by
      unfold stopAnswer
      split
      · rfl
      · rfl
    apply neverSelf_of_events (by simp) _ hanswer
    · intro p hp
      rcases List.mem_filterMap.mp hp with ⟨e, he, hadd⟩
      rcases List.mem_map.mp he with ⟨drop, _, rfl⟩
      cases hadd
    · intro items info item heq
      unfold stopAnswer at heq
      split at heq
      · cases heq
      · cases heq
    · intro e he
      rcases List.mem_map.mp he with ⟨drop, _, rfl⟩
      rfl

theorem neverSelf_list (hdistinct : ListsDistinctPids lib env)
    (hconfigs : AnswersConfigs env)
    (hrun : (list lib env (some api)).run w = .ok rc w') :
    NeverSelf lib api (w.eventsSince w') := by
  rcases run_bind_eq_ok hrun with ⟨found, w1, hget, hanswer⟩
  rcases foreign_of_getDaemons hdistinct hconfigs hget with
    ⟨events, hlog, hforeign⟩
  rcases ((quiet_getDaemons lib env (some api)).ok hget).log with
    ⟨events', hlog', hdiscovery⟩
  have hsame : events' = events :=
    List.append_cancel_left (hlog'.symm.trans hlog)
  rw [hsame] at hdiscovery
  have hsince : forall answer, w.eventsSince (w1.emit answer) =
      events ++ ([] ++ [answer]) := by
    intro answer
    apply World.eventsSince_of_log
    rw [World.emit_log, hlog, List.append_assoc]
    rfl
  cases htable : found.2 with
  | none =>
      rw [htable] at hanswer
      cases hanswer
      rw [hsince]
      apply neverSelf_of_events hdiscovery (by simp) rfl
      · intro p hp
        cases hp
      · intro items info item heq
        cases heq
  | some table =>
      rw [htable] at hanswer
      cases hanswer
      rw [hsince]
      apply neverSelf_of_events hdiscovery (by simp) rfl
      · intro p hp
        cases hp
      · intro items info item heq hitem
        cases heq
        rcases List.mem_map.mp hitem with ⟨d, hd, hpack⟩
        unfold packDaemon at hpack
        split at hpack
        · cases hpack
          have hmem : d ∈ tableDaemons found.2 := by
            rw [htable]
            exact hd
          exact hforeign d hmem
        · cases hpack

/-!
## Requests that do not return
-/

theorem neverSelf_of_quiet (h : Quiet w w') :
    NeverSelf lib api (w.eventsSince w') := by
  rcases h.log with ⟨events, hlog, hall⟩
  rw [World.eventsSince_of_log hlog, ← List.append_nil events]
  apply neverSelf_of_unanswered hall (by simp)
  intro p hp
  cases hp

/-- What a search that crashes has traced until then. -/
theorem neverSelf_of_crashed (hdistinct : ListsDistinctPids lib env)
    (hconfigs : AnswersConfigs env)
    (hlists : ListsDaemons lib env (some api) a w daemons w1) {f : Fault}
    {l : Locals}
    (hplan : (runPlan env a.level (plan lib a daemons) l).run w1 =
      .error (Exit.fault f) w') :
    NeverSelf lib api (w.eventsSince w') := by
  rcases foreign_of_listsDaemons hdistinct hconfigs hlists with
    ⟨found, hfound, hdiscovery, hforeign⟩
  cases planBroken_of_run_eq_error hplan with
  | crashed tracing hlog htracing hadded _ =>
      rw [hfound, List.append_assoc] at hlog
      rw [World.eventsSince_of_log hlog]
      apply neverSelf_of_unanswered hdiscovery htracing
      intro p hp
      rcases exists_daemon_of_mem_visitedPids (hadded p hp) with ⟨d, hd, rfl⟩
      exact hforeign d hd

theorem neverSelf_of_faulted_start (hdistinct : ListsDistinctPids lib env)
    (hconfigs : AnswersConfigs env) (hset : ¬ a.Unset) (hidle : w.Idle)
    {e : Exit}
    (hrun : (traceStartArgs lib env (some api) a).run w = .error e w') :
    NeverSelf lib api (w.eventsSince w') := by
  rcases prefillRecord_cases hidle lib env a with
    ⟨w1, hprefill, _⟩ | ⟨w1, e, hprefill, _⟩
  · cases hget : (getDaemons lib env (some api)).run w1 with
    | ok found w2 =>
        have hlists : ListsDaemons lib env (some api) a w
            (tableDaemons found.2) w2 :=
          ⟨found, (run_bind_of_ok hprefill).trans hget, rfl⟩
        rw [run_traceStartArgs_of_listsDaemons hset hidle hlists] at hrun
        cases hplan : (runPlan env a.level (plan lib a (tableDaemons found.2))
            ⟨0, []⟩).run w2 with
        | ok l w3 =>
            rw [hplan] at hrun
            by_cases hnb : l.nbTracedDaemons = 0
            · cases (if_pos hnb).symm.trans hrun
            · cases (if_neg hnb).symm.trans hrun
        | error e' w3 =>
            rw [hplan] at hrun
            cases e' with
            | gotoError => cases hrun
            | fault f =>
                cases hrun
                exact neverSelf_of_crashed hdistinct hconfigs hlists hplan
    | error e' w2 =>
        rw [run_traceStartArgs_of_collection_error hset hidle.num hprefill
          hget] at hrun
        cases hrun
        rcases run_prefillRecord_log hprefill with ⟨first, hfirst, hallocs⟩
        rcases ((quiet_getDaemons lib env (some api)).error hget).log with
          ⟨second, hsecond, hall⟩
        rw [hfirst, List.append_assoc] at hsecond
        rw [World.eventsSince_of_log hsecond, ← List.append_nil (first ++ _)]
        apply neverSelf_of_unanswered _ (by simp) (fun p hp => by cases hp)
        intro event hmem
        rcases List.mem_append.mp hmem with hmem | hmem
        · exact isDiscovery_of_isAllocation (hallocs event hmem)
        · exact hall event hmem
  · rw [run_traceStartArgs_of_prefill_error hset hidle.num hprefill] at hrun
    cases hrun

theorem neverSelf_of_faulted_list {e : Exit}
    (hrun : (list lib env (some api)).run w = .error e w') :
    NeverSelf lib api (w.eventsSince w') := by
  cases hget : (getDaemons lib env (some api)).run w with
  | error e' w1 =>
      unfold list at hrun
      rw [run_bind_of_error hget] at hrun
      cases hrun
      exact neverSelf_of_quiet ((quiet_getDaemons lib env (some api)).error hget)
  | ok found w1 =>
      unfold list at hrun
      rw [run_bind_of_ok hget] at hrun
      cases htable : found.2 with
      | none =>
          rw [htable] at hrun
          cases hrun
      | some table =>
          rw [htable] at hrun
          cases hrun

theorem neverSelf_handle (hdistinct : ListsDistinctPids lib env)
    (hconfigs : AnswersConfigs env) (hinv : SessionInv w)
    (request : Request) :
    NeverSelf lib api (w.eventsSince
      (finalState ((handle lib env (some api) request).run w))) := by
  cases hrun : (handle lib env (some api) request).run w with
  | ok rc w' =>
      cases request with
      | list => exact neverSelf_list hdistinct hconfigs hrun
      | traceStart queryJ =>
          exact neverSelf_traceStart hdistinct hconfigs hinv hrun
      | traceStop => exact neverSelf_traceStop hinv hrun
  | error e w' =>
      cases request with
      | list => exact neverSelf_of_faulted_list hrun
      | traceStart queryJ =>
          cases hquery : lib.unpackQuery queryJ with
          | none =>
              cases (run_traceStart_of_bad_query hquery w).symm.trans hrun
          | some q =>
              have hargs := (run_traceStart_of_query hquery w).symm.trans hrun
              by_cases hset : (TraceArgs.ofQuery q).Unset
              · rw [run_traceStartArgs_of_unset hset] at hargs
                cases hargs
              · by_cases hnum : w.tracePidsNum = 0
                · exact neverSelf_of_faulted_start hdistinct hconfigs hset
                    (hinv.idle hnum) hargs
                · rw [run_traceStartArgs_of_tracing hset (by omega)] at hargs
                  cases hargs
      | traceStop =>
          rcases returns_traceStop env hinv with ⟨rc, w1, hok⟩
          cases hok.symm.trans hrun

/--
No request of a run traces or lists a daemon that names the API, and neither
does the next one, whether it returns or crashes.
-/
theorem never_self (hdistinct : ListsDistinctPids lib env)
    (hconfigs : AnswersConfigs env) (hidle : w0.Idle)
    (hrun : Run (Serves lib env (some api)) w0 moves w) :
    (forall m, m ∈ moves -> NeverSelf lib api (events m)) ∧
      forall request, NeverSelf lib api (w.eventsSince
        (finalState ((handle lib env (some api) request).run w))) := by
  constructor
  · refine Run.forall_moves (P := fun m => NeverSelf lib api (events m))
      hidle.sessionInv ?_ ?_ hrun
    · intro s request rc s' hinv hserves
      exact (served_of_serves hinv hserves).inv
    · intro s request rc s' hinv hserves
      have hnever : NeverSelf lib api (s.eventsSince
          (finalState ((handle lib env (some api) request).run s))) :=
        neverSelf_handle hdistinct hconfigs hinv request
      rw [show (handle lib env (some api) request).run s = .ok rc s'
        from hserves] at hnever
      exact hnever
  · exact neverSelf_handle hdistinct hconfigs
      (served_of_run_snoc hidle hrun)

/-- A service on the socket of pid 10, which is the plugin's own. -/
def selfFleet : List Member :=
  [⟨10, "gps", ["unix:gps"], []⟩, ⟨30, "service-xds", [], ["unix:gps"]⟩]

theorem fleetEnv_answersConfigs (fleet : List Member) :
    AnswersConfigs (fleetEnv fleet) := by
  intro log pid hrc
  unfold fleetEnv fleetService at *
  cases hfind : fleet.find? fun m => decide (m.pid = pid) with
  | none =>
      simp only [hfind] at hrc
      exact absurd hrc (by decide)
  | some m => exact ⟨_, by simp only [hfind]; rfl⟩

theorem never_self_fleet :
    exists moves w,
      Run (Serves fleetLibs (fleetEnv selfFleet) (some "xds")) World.initial
        moves w ∧
      moves.length = 4 ∧ addedPids w.log = [10, 10] ∧
      (forall m, m ∈ moves -> NeverSelf fleetLibs "xds" (events m)) ∧
      forall request, NeverSelf fleetLibs "xds" (w.eventsSince
        (finalState ((handle fleetLibs (fleetEnv selfFleet) (some "xds")
          request).run w))) := by
  have hserve : (serveAll fleetLibs (fleetEnv selfFleet) (some "xds")
      World.initial [Request.list, Request.traceStart (pidQuery 30),
        Request.traceStop, Request.traceStart (pidsQuery [10, 30])]).any
      (fun run => run.1.length = 4 ∧ addedPids run.2.log = [10, 10]) = true := by
    decide +kernel
  rcases (Option.any_eq_true _ _).mp hserve with ⟨run, hrun, hcheck⟩
  rcases of_decide_eq_true hcheck with ⟨hlength, hadded⟩
  have hruns := run_of_serveAll hrun
  have hdistinct : ListsDistinctPids fleetLibs (fleetEnv selfFleet) := by
    intro log _
    show ([10, 30] : List Int).Nodup
    decide
  exact ⟨run.1, run.2, hruns, hlength, hadded,
    never_self hdistinct (fleetEnv_answersConfigs selfFleet)
      World.initial_idle hruns⟩

end Supervisor
end XdsService
