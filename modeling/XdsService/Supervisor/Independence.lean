import XdsService.Supervisor.Collecting
import XdsService.Supervisor.Fleet
import XdsService.Supervisor.Readable

/-!
# Daemons are collected independently

The entry of a daemon depends on the answers about that daemon alone, so that
a failure of one daemon does not touch the entry of another.  A reply that the
callback cannot read does: it ends the collection, and no table is built.
-/

namespace XdsService
namespace Supervisor

open Foundation
open Program

variable {lib : Libs} {env : Env} {apiname : Option String}
variable {w : World}

/--
The table holds the entries of the listed daemons, in order; each was asked in
its turn, and the code is negative if a config call failed.
-/
structure Collection (lib : Libs) (env : Env) (apiname : Option String)
    (w : World) (rc : Int) (table : DaemonTable) (w' : World) : Prop where
  run : (getDaemons lib env apiname).run w = .ok (rc, some table) w'
  asked : w'.log = listLog env w.log ++
    (collectedAnswers lib env apiname w.log).flatMap
      (Answers.events lib apiname)
  table : table.daemons = (collectedAnswers lib env apiname w.log).filterMap
    (Answers.listed lib apiname)
  code : rc < 0 <-> exists answers,
    answers ∈ collectedAnswers lib env apiname w.log ∧ answers.ConfigFails

/-- Every daemon is collected, whatever is answered about the others. -/
def CollectsEach (lib : Libs) (env : Env) (apiname : Option String)
    (w : World) : Prop :=
  exists rc table w', Collection lib env apiname w rc table w'

theorem length_answersToAll (log : List Event) (objs : List Json) :
    (answersToAll lib env apiname log objs).length = objs.length := by
  induction objs generalizing log with
  | nil => rfl
  | cons obj rest ih => exact congrArg (fun n => n + 1) (ih _)

theorem mem_answersToAll {answers : Answers} {log : List Event}
    {objs : List Json} (h : answers ∈ answersToAll lib env apiname log objs) :
    exists log' obj, answers = answersAbout lib env log' obj := by
  induction objs generalizing log with
  | nil => cases h
  | cons obj rest ih =>
      rcases List.mem_cons.mp h with rfl | h
      · exact ⟨log, obj, rfl⟩
      · exact ih h

theorem foundDaemons_eq_listed {all : List Answers}
    (h : forall answers, answers ∈ all -> answers.Readable lib apiname) :
    foundDaemons (all.map (Answers.outcome lib apiname)) =
      all.filterMap (Answers.listed lib apiname) := by
  unfold foundDaemons
  rw [List.filterMap_map]
  apply List.filterMap_congr
  intro answers hmem
  exact entry_eq_listed (h answers hmem)

structure Completes (lib : Libs) (env : Env) (apiname : Option String)
    (log : List Event) : Prop where
  allocated : env.alloc log Allocation.callocDaemons = true
  discovers : Discovers env log
  readable : forall answers, answers ∈ collectedAnswers lib env apiname log ->
    answers.Readable lib apiname
  fits : ((collectedAnswers lib env apiname log).filterMap
    (Answers.listed lib apiname)).length ≤ maxDaemons

section Collection

variable {rc : Int} {table : DaemonTable} {w' : World}

theorem readable_of_applyAll
    (h : applyAll (collectedOutcomes lib env apiname w.log)
      ((listReply env w.log).rc, DaemonTable.empty) = .ok (rc, table)) :
    forall answers, answers ∈ collectedAnswers lib env apiname w.log ->
      answers.Readable lib apiname := by
  intro answers hmem
  exact (isCrash_iff answers).mp
    ((applyAll_eq_ok h).1 _ (List.mem_map_of_mem hmem))

theorem daemons_of_applyAll
    (h : applyAll (collectedOutcomes lib env apiname w.log)
      ((listReply env w.log).rc, DaemonTable.empty) = .ok (rc, table)) :
    table.daemons = (collectedAnswers lib env apiname w.log).filterMap
      (Answers.listed lib apiname) := by
  rw [(applyAll_eq_ok h).2]
  exact foundDaemons_eq_listed (readable_of_applyAll h)

theorem code_of_applyAll (hdiscovers : Discovers env w.log)
    (h : applyAll (collectedOutcomes lib env apiname w.log)
      ((listReply env w.log).rc, DaemonTable.empty) = .ok (rc, table)) :
    rc < 0 <-> exists answers,
      answers ∈ collectedAnswers lib env apiname w.log ∧
        answers.ConfigFails := by
  have hreadable := readable_of_applyAll h
  have hneg : forall n,
      Outcome.configFailed n ∈ collectedOutcomes lib env apiname w.log ->
      n < 0 := by
    intro n hn
    rcases List.mem_map.mp hn with ⟨answers, _, houtcome⟩
    exact neg_of_configFailed houtcome
  rw [applyAll_rc h hneg]
  constructor
  · intro hcode
    rcases hcode with hcode | ⟨o, ho, hfailure⟩
    · exact absurd hcode (Int.not_lt.mpr hdiscovers.list)
    · rcases List.mem_map.mp ho with ⟨answers, hmem, rfl⟩
      exact ⟨answers, hmem,
        (isConfigFailure_iff answers (hreadable answers hmem)).mp hfailure⟩
  · intro hcode
    rcases hcode with ⟨answers, hmem, hfails⟩
    exact Or.inr ⟨_, List.mem_map_of_mem hmem,
      (isConfigFailure_iff answers (hreadable answers hmem)).mpr hfails⟩

theorem completes_of_run (hdiscovers : Discovers env w.log)
    (hrun : (getDaemons lib env apiname).run w = .ok (rc, some table) w') :
    Completes lib env apiname w.log ∧
      Collection lib env apiname w rc table w' := by
  cases halloc : env.alloc w.log Allocation.callocDaemons with
  | false =>
      rcases run_getDaemons_of_no_table lib apiname halloc with
        ⟨rc1, w1, hnone⟩
      rw [hnone] at hrun
      cases hrun
  | true =>
      rcases run_getDaemons lib apiname halloc hdiscovers with
        ⟨w1, heq, hlog⟩
      rw [heq] at hrun
      cases happly : applyAll (collectedOutcomes lib env apiname w.log)
          ((listReply env w.log).rc, DaemonTable.empty) with
      | error f =>
          rw [happly] at hrun
          cases hrun
      | ok sofar =>
          rw [happly] at hrun heq
          cases hrun
          have hdaemons := daemons_of_applyAll happly
          constructor
          · refine ⟨halloc, hdiscovers, readable_of_applyAll happly, ?_⟩
            rw [← hdaemons]
            exact sofar.2.count_le
          · exact ⟨heq, hlog sofar happly, hdaemons,
              code_of_applyAll hdiscovers happly⟩

theorem exists_collection (h : Completes lib env apiname w.log) :
    exists rc table w', Collection lib env apiname w rc table w' := by
  have hcrash : forall o, o ∈ collectedOutcomes lib env apiname w.log ->
      o.isCrash = false := by
    intro o ho
    rcases List.mem_map.mp ho with ⟨answers, hmem, rfl⟩
    exact (isCrash_iff answers).mpr (h.readable answers hmem)
  have hfits : DaemonTable.empty.count +
      (foundDaemons (collectedOutcomes lib env apiname w.log)).length ≤
        maxDaemons := by
    have hempty : DaemonTable.empty.count = 0 := rfl
    rw [hempty, Nat.zero_add]
    refine Nat.le_trans (Nat.le_of_eq ?_) h.fits
    exact congrArg List.length (foundDaemons_eq_listed h.readable)
  rcases applyAll_of_fits (listReply env w.log).rc _ hcrash hfits with
    ⟨rc, table, happly⟩
  rcases run_getDaemons lib apiname h.allocated h.discovers with ⟨w', hrun, _⟩
  rw [happly] at hrun
  exact ⟨rc, table, w', (completes_of_run h.discovers hrun).2⟩

end Collection

theorem length_listed_le (log : List Event) :
    ((collectedAnswers lib env apiname log).filterMap
      (Answers.listed lib apiname)).length ≤
        (listedDaemons lib (listReply env log).response).length := by
  refine Nat.le_trans (List.length_filterMap_le _ _) (Nat.le_of_eq ?_)
  exact length_answersToAll _ _

/--
With a supervisor that lists no more daemons than there are slots, the daemons
are collected independently exactly where there is memory and every reply can
be read.
-/
theorem collects_each_iff (hdiscovers : Discovers env w.log)
    (hslots : (listedDaemons lib (listReply env w.log).response).length ≤
      maxDaemons) :
    CollectsEach lib env apiname w <->
      env.alloc w.log Allocation.callocDaemons = true ∧
        forall answers, answers ∈ collectedAnswers lib env apiname w.log ->
          answers.Readable lib apiname := by
  constructor
  · intro h
    rcases h with ⟨rc, table, w', hcollection⟩
    have hcompletes := (completes_of_run hdiscovers hcollection.run).1
    exact ⟨hcompletes.allocated, hcompletes.readable⟩
  · intro h
    rcases h with ⟨halloc, hreadable⟩
    exact exists_collection ⟨halloc, hdiscovers, hreadable,
      Nat.le_trans (length_listed_le w.log) hslots⟩

theorem collects_each_iff_pair :
    CollectsEach fleetLibs (fleetEnv pairFleet) (some "xds") World.initial <->
      (fleetEnv pairFleet).alloc [] Allocation.callocDaemons = true ∧
        forall answers, answers ∈ collectedAnswers fleetLibs
            (fleetEnv pairFleet) (some "xds") [] ->
          answers.Readable fleetLibs (some "xds") :=
  collects_each_iff ⟨le_refl 0, le_refl 0⟩ (by decide)

def garbledConfig : Json :=
  Json.object [("name", Json.string "map"),
    ("ws_servers", Json.string "unix:map"), ("ws_clients", Json.array [])]

/-- The fleet of two, where the second answers with a garbled config. -/
def garbledEnv : Env where
  service := fun log call =>
    if call = Call.config 20 then respond garbledConfig
    else fleetService pairFleet log call
  alloc := fun _ _ => true

/-- The garbled config of the second daemon loses the entry of the first. -/
theorem garbled_config_ends_collection :
    ¬ CollectsEach fleetLibs garbledEnv (some "xds") World.initial := by
  intro h
  rcases h with ⟨rc, table, w', hcollection⟩
  have hfault : exists w1,
      (getDaemons fleetLibs garbledEnv (some "xds")).run World.initial =
        .error (Exit.fault Fault.notArray) w1 := ⟨_, rfl⟩
  rcases hfault with ⟨w1, hfault⟩
  have hrun := hcollection.run
  rw [hfault] at hrun
  cases hrun

end Supervisor
end XdsService
