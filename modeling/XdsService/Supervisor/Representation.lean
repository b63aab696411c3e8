import XdsService.Supervisor.Collecting
import XdsService.Supervisor.Protocol

/-!
# The block behind the record

The handlers set `TracePidsNum` first and allocate `TracePidsArr` afterwards, and
a request may end between the two.  No run of requests uses a cell that
the block does not have, and counter and block agree whenever a request was
answered.
-/

namespace XdsService
namespace Supervisor

open Foundation
open Program

variable {lib : Libs} {env : Env} {apiname : Option String}
variable {w0 w w1 : World} {moves : List RequestMove}

/-!
## Accesses

A program is stopped by the fault `tracePidsCell` at the first access to
`TracePidsArr` that is not in order.
-/

section Accesses

variable {α : Type}

/--
Started in the world `w`, the program accesses cells of the block that
`TracePidsArr` owns only, and reads only those that have been written.
-/
def AccessesOwned (program : Handler α) (w : World) : Prop :=
  Avoids (Exit.fault Fault.tracePidsCell) program w

/-- What the definition says of the two accesses that the handlers make. -/
theorem accessesOwned_readPid_iff (k : Nat) :
    AccessesOwned (readPid k) w <->
      exists pid, w.cells[k]? = some (some pid) := by
  have hrun : (readPid k).run w = readPid k w := rfl
  unfold AccessesOwned Avoids
  rw [hrun, readPid]
  rcases w.cells[k]? with _ | _ | pid
  · simp
  · simp
  · simp

theorem accessesOwned_writePid_iff (k : Nat) (pid : Int) :
    AccessesOwned (writePid k pid) w <-> k < w.cells.length := by
  have hrun : (writePid k pid).run w = writePid k pid w := rfl
  unfold AccessesOwned Avoids
  rw [hrun, writePid]
  by_cases hk : k < w.cells.length
  · simp [hk]
  · simp [hk]

theorem accessesOwned_of_gotoError {program : Handler α}
    (h : program.run w = .error Exit.gotoError w1) :
    AccessesOwned program w :=
  (avoids_iff_of_error h).mpr Exit.noConfusion

/-- The label `error` catches the jumps to it, and no fault. -/
theorem accessesOwned_withErrorLabel_iff {body : Handler Int} :
    AccessesOwned (withErrorLabel body) w <-> AccessesOwned body w := by
  cases hrun : body.run w with
  | ok rc w1 =>
      have hlabel := run_withErrorLabel_of_ok hrun
      exact iff_of_true (avoids_of_ok hlabel) (avoids_of_ok hrun)
  | error e w1 =>
      cases e with
      | gotoError =>
          have hlabel := run_withErrorLabel_of_gotoError hrun
          exact iff_of_true (avoids_of_ok hlabel)
            (accessesOwned_of_gotoError hrun)
      | fault f =>
          have hlabel := run_withErrorLabel_of_fault hrun
          unfold AccessesOwned
          rw [avoids_iff_of_error hlabel, avoids_iff_of_error hrun]

end Accesses

/-!
## The collection of the daemons
-/

theorem accessesOwned_getDaemons (lib : Libs) (env : Env)
    (apiname : Option String) (w : World) :
    AccessesOwned (getDaemons lib env apiname) w := by
  intro w' h
  rcases getDaemons_eq_error h with ⟨_, _, f, hf, happly⟩
  cases hf
  rcases applyAll_eq_error happly with hfault | hmem
  · cases hfault
  · rcases List.mem_map.mp hmem with ⟨answers, _, houtcome⟩
    rcases fault_of_outcome houtcome with hfault | hfault | hfault
    · cases hfault
    · cases hfault
    · cases hfault

/-!
## The handlers
-/

theorem accessesOwned_list (lib : Libs) (env : Env) (apiname : Option String)
    (w : World) : AccessesOwned (list lib env apiname) w := by
  unfold AccessesOwned list
  rw [avoids_bind_iff]
  constructor
  · exact accessesOwned_getDaemons lib env apiname w
  · intro found w1 _
    rcases found with ⟨rc, table⟩
    cases table with
    | none => exact avoids_of_ok rfl
    | some table => exact avoids_of_ok rfl

theorem accessesOwned_traceFound {a : TraceArgs} (hsearch : Searching lib a w w1)
    (env : Env) (daemons : List Daemon) :
    AccessesOwned (traceFound lib env a daemons) w1 := by
  rw [← accessesOwned_withErrorLabel_iff]
  intro w' h
  rw [run_withErrorLabel_traceFound hsearch env daemons] at h
  cases hplan : (runPlan env a.level (plan lib a daemons) ⟨0, []⟩).run w1 with
  | ok l w2 =>
      rw [hplan, finishStart] at h
      split at h
      · cases h
      · cases h
  | error e w2 =>
      rw [hplan] at h
      cases planBroken_of_run_eq_error hplan with
      | refused events info _ _ _ => cases h
      | crashed events _ _ _ _ => cases h

theorem accessesOwned_traceStartBody (hidle : w.Idle) (lib : Libs) (env : Env)
    (apiname : Option String) (a : TraceArgs) :
    AccessesOwned (traceStartBody lib env apiname a) w := by
  unfold AccessesOwned traceStartBody
  rcases prefillRecord_cases hidle lib env a with
    ⟨w1, hprefill, hsearch⟩ | ⟨w1, e, hprefill, _⟩
  · rw [avoids_bind_iff]
    constructor
    · exact avoids_of_ok hprefill
    · intro u w2 hrun
      rw [hprefill] at hrun
      cases hrun
      rw [avoids_bind_iff]
      constructor
      · exact accessesOwned_getDaemons lib env apiname w1
      · intro found w2 hget
        have hquiet := (quiet_getDaemons lib env apiname).ok hget
        exact accessesOwned_traceFound (hsearch.trans_quiet hquiet) env _
  · exact accessesOwned_of_gotoError (run_bind_of_error hprefill)

theorem accessesOwned_traceStart (hinv : SessionInv w) (lib : Libs) (env : Env)
    (apiname : Option String) (queryJ : Json) :
    AccessesOwned (traceStart lib env apiname queryJ) w := by
  cases hquery : lib.unpackQuery queryJ with
  | none => exact avoids_of_ok (run_traceStart_of_bad_query hquery w)
  | some q =>
      unfold AccessesOwned
      rw [avoids_congr (run_traceStart_of_query hquery w)]
      by_cases hset : (TraceArgs.ofQuery q).Unset
      · exact avoids_of_ok (run_traceStartArgs_of_unset hset w)
      · rcases Nat.eq_zero_or_pos w.tracePidsNum with hnum | hnum
        · rw [avoids_congr (run_traceStartArgs_of_idle hset hnum)]
          exact accessesOwned_withErrorLabel_iff.mpr
            (accessesOwned_traceStartBody (hinv.idle hnum) lib env apiname _)
        · exact avoids_of_ok (run_traceStartArgs_of_tracing hset hnum)

theorem accessesOwned_traceStop (hinv : SessionInv w) (env : Env) :
    AccessesOwned (traceStop env) w := by
  rcases returns_traceStop env hinv with ⟨rc, w', hrun⟩
  exact avoids_of_ok hrun

theorem accessesOwned_handle (hinv : SessionInv w) (lib : Libs) (env : Env)
    (apiname : Option String) (request : Request) :
    AccessesOwned (handle lib env apiname request) w := by
  cases request with
  | list => exact accessesOwned_list lib env apiname w
  | traceStart queryJ =>
      exact accessesOwned_traceStart hinv lib env apiname queryJ
  | traceStop => exact accessesOwned_traceStop hinv env

/-!
## Counter and block between requests
-/

/-- The block belongs to the counter: NULL for zero, else large enough. -/
structure RepresentsRecord (w : World) : Prop where
  null : w.tracePidsArr = none <-> w.tracePidsNum = 0
  owned : w.tracePidsNum ≤ w.cells.length
  written : forall k, k < w.tracePidsNum ->
    exists pid, w.cells[k]? = some (some pid)

theorem SessionInv.representsRecord (hinv : SessionInv w) :
    RepresentsRecord w := by
  have hidle := hinv.idle
  rcases hinv with ⟨ps, hps, _⟩
  have howned : w.tracePidsNum ≤ w.cells.length := by
    rw [hps.num, ← List.length_map some]
    exact hps.held.length_le
  constructor
  · constructor
    · intro hnull
      have hempty : w.cells = [] := by
        rw [World.cells, hnull]
        rfl
      rw [hempty] at howned
      exact Nat.le_zero.mp howned
    · intro hnum
      exact (hidle hnum).arr
  · exact howned
  · intro k hk
    rw [hps.num] at hk
    exact ⟨ps[k], hps.cell hk⟩

/--
After any run of requests the block belongs to the counter, and whatever is
requested next accesses owned and written cells only.
-/
theorem record_represented (hidle : w0.Idle)
    (hrun : Run (Serves lib env apiname) w0 moves w) :
    RepresentsRecord w ∧
      forall request, AccessesOwned (handle lib env apiname request) w := by
  have hinv := served_of_run_snoc hidle hrun
  exact ⟨hinv.representsRecord, accessesOwned_handle hinv lib env apiname⟩

/-- A start by socket name, which lets the block grow, and a stop. -/
theorem record_represented_fleet :
    exists moves w,
      Run (Serves fleetLibs (fleetEnv pairFleet) (some "xds")) World.initial
        moves w ∧
      moves.length = 2 ∧ RepresentsRecord w ∧
      forall request, AccessesOwned
        (handle fleetLibs (fleetEnv pairFleet) (some "xds") request) w := by
  have hserve : (serveAll fleetLibs (fleetEnv pairFleet) (some "xds")
      World.initial [Request.traceStart (wsQuery "gps"),
        Request.traceStop]).any (fun run => run.1.length = 2) = true := by
    decide +kernel
  rcases (Option.any_eq_true _ _).mp hserve with ⟨run, hrun, hlength⟩
  have hruns := run_of_serveAll hrun
  exact ⟨run.1, run.2, hruns, of_decide_eq_true hlength,
    record_represented World.initial_idle hruns⟩

end Supervisor
end XdsService
