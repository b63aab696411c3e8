import XdsService.Foundation.Properties
import XdsService.Supervisor.Collecting
import XdsService.Supervisor.Fleet
import XdsService.Supervisor.Readable

/-!
# Overrunning the daemon table

The table has a fixed number of slots, and the callback stores a daemon in the
next one without a test.
-/

namespace XdsService
namespace Supervisor

open Foundation
open Program

variable {lib : Libs} {env : Env} {apiname : Option String}
variable {w : World}

structure NeverOverruns (lib : Libs) (env : Env) (apiname : Option String)
    (w : World) : Prop where
  writes : forall w', (getDaemons lib env apiname).run w ≠
    .error (Exit.fault Fault.tableOverrun) w'
  count : forall rc table w',
    (getDaemons lib env apiname).run w = .ok (rc, some table) w' ->
      table.count ≤ maxDaemons ∧
        forall i, i < table.count -> exists d, table.daemons[i]? = some d

/-- The daemons to be stored before the callback crashes, if it ever does. -/
def daemonsToStore (lib : Libs) (env : Env) (apiname : Option String)
    (log : List Event) : List Daemon :=
  foundDaemons (beforeCrash (collectedOutcomes lib env apiname log))

theorem tableOverrun_notMem (lib : Libs) (env : Env)
    (apiname : Option String) (log : List Event) :
    Outcome.crashed Fault.tableOverrun ∉
      collectedOutcomes lib env apiname log := by
  intro hmem
  rcases List.mem_map.mp hmem with ⟨answers, _, houtcome⟩
  exact outcome_ne_tableOverrun answers houtcome

theorem getDaemons_overrun_iff
    (halloc : env.alloc w.log Allocation.callocDaemons = true)
    (hdiscovers : Discovers env w.log) :
    (exists w', (getDaemons lib env apiname).run w =
        .error (Exit.fault Fault.tableOverrun) w') <->
      maxDaemons < (daemonsToStore lib env apiname w.log).length := by
  rcases run_getDaemons lib apiname halloc hdiscovers with ⟨w', hrun, _⟩
  have hiff := applyAll_overrun_iff (listReply env w.log).rc DaemonTable.empty
    (tableOverrun_notMem lib env apiname w.log)
  have hempty : DaemonTable.empty.count = 0 := rfl
  rw [hempty, Nat.zero_add] at hiff
  rw [hrun]
  refine Iff.trans ?_ hiff
  cases happly : applyAll (collectedOutcomes lib env apiname w.log)
      ((listReply env w.log).rc, DaemonTable.empty) with
  | ok sofar =>
      constructor
      · intro h
        rcases h with ⟨_, h⟩
        cases h
      · intro h
        cases h
  | error f =>
      constructor
      · intro h
        rcases h with ⟨_, h⟩
        cases h
        rfl
      · intro h
        cases h
        exact ⟨w', rfl⟩

/-- What the collection may do to the table, given the answers. -/
def FitsTable (lib : Libs) (env : Env) (apiname : Option String)
    (log : List Event) : Prop :=
  env.alloc log Allocation.callocDaemons = true -> Discovers env log ->
    (daemonsToStore lib env apiname log).length ≤ maxDaemons

/--
The table is never overrun exactly where the daemons to be stored are no more
than it has slots.
-/
theorem never_overruns_iff (lib : Libs) (env : Env) (apiname : Option String)
    (w : World) :
    NeverOverruns lib env apiname w <-> FitsTable lib env apiname w.log := by
  constructor
  · intro h halloc hdiscovers
    by_contra hlength
    rcases (getDaemons_overrun_iff halloc hdiscovers).mpr
      (Nat.not_le.mp hlength) with ⟨w', hrun⟩
    exact h.writes w' hrun
  · intro h
    constructor
    · intro w' hrun
      rcases getDaemons_eq_error hrun with ⟨halloc, hdiscovers, _⟩
      have hoverrun := (getDaemons_overrun_iff halloc hdiscovers).mp
        ⟨w', hrun⟩
      exact absurd (h halloc hdiscovers) (Nat.not_le.mpr hoverrun)
    · intro rc table w' _
      exact ⟨table.count_le,
        fun i hi => ⟨_, List.getElem?_eq_getElem hi⟩⟩

/-!
## A fleet that is too large
-/

theorem outcome_of_member {fleet : List Member} {m : Member} (hm : m ∈ fleet)
    (hother : forall m, m ∈ fleet -> isIgnored apiname (some m.name) = false)
    (log : List Event) :
    exists d,
      (answersAbout fleetLibs (fleetEnv fleet) log m.entry.2).outcome
        fleetLibs apiname = Outcome.found d := by
  cases hfind : fleet.find? fun m' => decide (m'.pid = m.pid) with
  | none =>
      have hno := List.find?_eq_none.mp hfind m hm
      simp at hno
  | some m' =>
      have hconfig : forall log,
          (fleetEnv fleet).service log (Call.config m.pid) =
            respond m'.config := by
        intro log
        simp only [fleetEnv, fleetService, hfind]
      have hfound : exists d,
          configOutcome fleetLibs apiname m.pid (respond m'.config) =
            Outcome.found d := by
        refine ⟨configuredDaemon fleetLibs m.pid m'.config
          ⟨Json.string m'.name, Json.array (m'.servers.map Json.string),
            Json.array (m'.clients.map Json.string)⟩
          (m'.servers.map Json.string) (m'.clients.map Json.string), ?_⟩
        have hname := hother m' (List.mem_of_find?_eq_some hfind)
        show (if isIgnored apiname (some m'.name) then Outcome.skipped
          else Outcome.found _) = _
        rw [hname]
        rfl
      rcases hfound with ⟨d, hd⟩
      exists d.withApis
        (respond (Json.object [("apis", Json.object [])])).response
      show askedOutcome fleetLibs apiname m.pid
        ((fleetEnv fleet).service
          (log ++ [Event.alloc Allocation.callocDaemon true])
          (Call.config m.pid)) _ = _
      rw [hconfig, askedOutcome, hd]
      rfl

theorem length_daemonsToStore (objs : List Json) (log : List Event)
    (hall : forall obj, obj ∈ objs -> forall log, exists d,
      (answersAbout lib env log obj).outcome lib apiname = Outcome.found d) :
    (foundDaemons (beforeCrash ((answersToAll lib env apiname log objs).map
      (Answers.outcome lib apiname)))).length = objs.length := by
  induction objs generalizing log with
  | nil => rfl
  | cons obj rest ih =>
      rcases hall obj List.mem_cons_self log with ⟨d, hd⟩
      unfold answersToAll
      rw [List.map_cons, hd]
      have hrest := ih (log ++
        (answersAbout lib env log obj).events lib apiname)
        fun obj' hobj' => hall obj' (List.mem_cons_of_mem obj hobj')
      exact congrArg (fun n => n + 1) hrest

/-- Daemons with the names 0, 1, ... and these numbers as their pids. -/
def numberedFleet (n : Nat) : List Member :=
  (List.range n).map fun i => ⟨Int.ofNat i, indexName i, [], []⟩

theorem numberedFleet_not_ignored (n : Nat) {m : Member}
    (hm : m ∈ numberedFleet n) :
    isIgnored (some "xds") (some m.name) = false := by
  rcases List.mem_map.mp hm with ⟨i, _, rfl⟩
  rw [← Bool.not_eq_true]
  intro hignored
  have hinfix := strstr_iff.mp hignored
  have hx : 'x' ∈ (indexName i).toList := hinfix.subset (by decide)
  exact absurd (isDigit_of_mem_indexName hx) (by decide)

theorem overrun_of_numberedFleet {n : Nat} (hn : maxDaemons < n) :
    exists w', (getDaemons fleetLibs (fleetEnv (numberedFleet n))
      (some "xds")).run World.initial =
        .error (Exit.fault Fault.tableOverrun) w' := by
  have hall : forall obj,
      obj ∈ ((numberedFleet n).map Member.entry).map Prod.snd ->
      forall log, exists d,
        (answersAbout fleetLibs (fleetEnv (numberedFleet n)) log obj).outcome
          fleetLibs (some "xds") = Outcome.found d := by
    intro obj hobj log
    rcases List.mem_map.mp hobj with ⟨entry, hentry, rfl⟩
    rcases List.mem_map.mp hentry with ⟨m, hm, rfl⟩
    exact outcome_of_member hm (fun m hm => numberedFleet_not_ignored n hm) log
  have hlength := length_daemonsToStore _
    (listLog (fleetEnv (numberedFleet n)) []) hall
  refine (getDaemons_overrun_iff rfl ⟨le_refl 0, le_refl 0⟩).mpr ?_
  show maxDaemons < (foundDaemons (beforeCrash _)).length
  refine Nat.lt_of_lt_of_eq ?_ hlength.symm
  simpa [numberedFleet] using hn

/-- The 1025th daemon is written behind the table. -/
theorem overrun_by_large_fleet :
    ¬ NeverOverruns fleetLibs (fleetEnv (numberedFleet 1025)) (some "xds")
      World.initial := by
  intro h
  rcases overrun_of_numberedFleet (n := 1025) (by decide) with ⟨w', hrun⟩
  exact h.writes w' hrun

end Supervisor
end XdsService
