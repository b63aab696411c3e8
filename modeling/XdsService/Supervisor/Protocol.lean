import XdsService.Supervisor.Fleet

/-!
# The session protocol over runs

The binder serves requests one after another, so a run is a list of moves.  What
one request does to the session is known from `Served`; here it is carried
to whole runs.
-/

namespace XdsService
namespace Supervisor

open Foundation
open Program

abbrev RequestMove : Type := Move World Request Int

variable {lib : Libs} {env : Env} {apiname : Option String}
variable {w0 w w' : World} {request : Request} {m : RequestMove}
variable {moves : List RequestMove}

/-- The run of a list of requests, `none` if one of them does not return. -/
def serveAll (lib : Libs) (env : Env) (apiname : Option String) :
    World -> List Request -> Option (List RequestMove × World)
  | w, [] => some ([], w)
  | w, request :: rest =>
      match (handle lib env apiname request).run w with
      | .error _ _ => none
      | .ok rc w' =>
          (serveAll lib env apiname w' rest).map
            fun run => (⟨w, request, rc, w'⟩ :: run.1, run.2)

theorem run_of_serveAll {requests : List Request}
    {run : List RequestMove × World}
    (h : serveAll lib env apiname w requests = some run) :
    Run (Serves lib env apiname) w run.1 run.2 := by
  induction requests generalizing w run with
  | nil =>
      cases h
      exact Run.nil
  | cons request rest ih =>
      unfold serveAll at h
      cases hserves : (handle lib env apiname request).run w with
      | error e w' =>
          rw [hserves] at h
          cases h
      | ok rc w' =>
          rw [hserves] at h
          rcases Option.map_eq_some_iff.mp h with ⟨tail, htail, rfl⟩
          exact Run.cons hserves (ih htail)

theorem actions_of_serveAll {requests : List Request}
    {run : List RequestMove × World}
    (h : serveAll lib env apiname w requests = some run) :
    run.1.map Move.action = requests := by
  induction requests generalizing w run with
  | nil =>
      cases h
      rfl
  | cons request rest ih =>
      unfold serveAll at h
      cases hserves : (handle lib env apiname request).run w with
      | error e w' =>
          rw [hserves] at h
          cases h
      | ok rc w' =>
          rw [hserves] at h
          rcases Option.map_eq_some_iff.mp h with ⟨tail, htail, rfl⟩
          exact congrArg (List.cons request) (ih htail)

/-- What was logged while the request was served. -/
def events (m : RequestMove) : List Event := m.before.eventsSince m.after

def RepliedSuccess (m : RequestMove) : Prop :=
  exists e, e ∈ events m ∧ e.isSuccess = true

def IsStart (m : RequestMove) : Prop :=
  exists queryJ, m.action = Request.traceStart queryJ

def IsStop (m : RequestMove) : Prop := m.action = Request.traceStop

instance (m : RequestMove) : Decidable (IsStop m) :=
  match h : m.action with
  | Request.list => isFalse (by simp [IsStop, h])
  | Request.traceStart _ => isFalse (by simp [IsStop, h])
  | Request.traceStop => isTrue h

def StartSucceeded (m : RequestMove) : Prop := IsStart m ∧ RepliedSuccess m

/-- The stop is answered with a failure before it drops anything. -/
def StopRefused (m : RequestMove) : Prop :=
  IsStop m ∧ ¬ RepliedSuccess m ∧ droppedPids (events m) = []

/-!
## One move
-/

theorem served_of_run_snoc (hidle : w0.Idle)
    (hrun : Run (Serves lib env apiname) w0 moves w) : SessionInv w :=
  Run.invariant hidle.sessionInv
    (fun hinv hserves => (served_of_serves hinv hserves).inv) hrun

section Served

variable {rc : Int}

theorem repliedSuccess_iff (h : Served w request rc w') :
    RepliedSuccess ⟨w, request, rc, w'⟩ <-> rc = 0 :=
  h.answered.success

theorem tracePidsNum_pos_iff (h : Served w request rc w') :
    0 < w'.tracePidsNum <->
      StartSucceeded ⟨w, request, rc, w'⟩ ∨
        (0 < w.tracePidsNum ∧ ¬ IsStop ⟨w, request, rc, w'⟩) := by
  unfold StartSucceeded IsStart IsStop
  rw [repliedSuccess_iff h]
  cases h.session with
  | list hsame => simp [hsame.num]
  | rejected hsame hrc _ _ => simp [hsame.num, hrc]
  | failed hidle hidle' hrc => simp [hidle.num, hidle'.num, hrc]
  | started hidle hpos hrc => simp [hpos, hrc]
  | refused hidle hidle' _ _ => simp [hidle'.num]
  | stopped _ hidle' _ => simp [hidle'.num]

theorem startSucceeded_idle (h : Served w request rc w')
    (hstart : StartSucceeded ⟨w, request, rc, w'⟩) :
    w.tracePidsNum = 0 ∧ 0 < w'.tracePidsNum := by
  have hreply := (repliedSuccess_iff h).mp hstart.right
  rcases hstart.left with ⟨queryJ, rfl⟩
  cases h.session with
  | rejected _ hrc _ _ => exact absurd hreply hrc
  | failed _ _ hrc => exact absurd hreply hrc
  | started hidle hpos _ => exact ⟨hidle.num, hpos⟩

theorem stopRefused_iff (h : Served w request rc w')
    (hstop : IsStop ⟨w, request, rc, w'⟩) :
    StopRefused ⟨w, request, rc, w'⟩ <-> w.tracePidsNum = 0 := by
  unfold StopRefused
  rw [repliedSuccess_iff h]
  cases hstop
  cases h.session with
  | refused hidle _ hrc hdropped =>
      exact ⟨fun _ => hidle.num, fun _ => ⟨rfl, hrc, hdropped⟩⟩
  | stopped hpos _ hdropped =>
      constructor
      · intro hrefused
        exact absurd hrefused.right.right hdropped
      · intro hzero
        exact absurd hzero (Nat.ne_of_gt hpos)

theorem start_while_tracing (h : Served w request rc w')
    (hstart : IsStart ⟨w, request, rc, w'⟩) (hnum : 0 < w.tracePidsNum) :
    rc ≠ 0 ∧ addedPids (w.eventsSince w') = [] ∧
      droppedPids (w.eventsSince w') = [] ∧ SameRecord w w' := by
  rcases hstart with ⟨queryJ, rfl⟩
  cases h.session with
  | rejected hsame hrc hadded hdropped =>
      exact ⟨hrc, hadded, hdropped, hsame⟩
  | failed hidle _ _ => exact absurd hidle.num (Nat.ne_of_gt hnum)
  | started hidle _ _ => exact absurd hidle.num (Nat.ne_of_gt hnum)

end Served

/-- What the protocol asks of each request. -/
structure ProtocolMove (m : RequestMove) : Prop where
  answered : AnsweredOnce m.before m.answer m.after
  start : IsStart m -> 0 < m.before.tracePidsNum ->
    ¬ RepliedSuccess m ∧ addedPids (events m) = [] ∧
      droppedPids (events m) = [] ∧ SameRecord m.before m.after
  stop : IsStop m -> (StopRefused m <-> m.before.tracePidsNum = 0)

theorem Served.protocolMove {rc : Int} (h : Served w request rc w') :
    ProtocolMove ⟨w, request, rc, w'⟩ := by
  constructor
  · exact h.answered
  · intro hstart hnum
    rw [repliedSuccess_iff h]
    exact start_while_tracing h hstart hnum
  · intro hstop
    exact stopRefused_iff h hstop

/-!
## Runs
-/

theorem protocolMove_of_run (hidle : w0.Idle)
    (hrun : Run (Serves lib env apiname) w0 moves w) :
    forall m, m ∈ moves -> ProtocolMove m := by
  refine Run.forall_moves (P := ProtocolMove) hidle.sessionInv ?_ ?_ hrun
  · intro s a r s' hinv hserves
    exact (served_of_serves hinv hserves).inv
  · intro s a r s' hinv hserves
    exact Served.protocolMove (served_of_serves hinv hserves)

theorem tracing_iff_of_run (hidle : w0.Idle)
    (hrun : Run (Serves lib env apiname) w0 moves w) :
    0 < w.tracePidsNum <-> LastSince StartSucceeded IsStop moves := by
  induction hrun with
  | nil => simp [hidle.num, not_lastSince_nil]
  | @snoc moves s s' a r hinit hlast ih =>
      have hserved := served_of_serves (served_of_run_snoc hidle hinit) hlast
      have hmove := tracePidsNum_pos_iff hserved
      by_cases hstart : StartSucceeded ⟨s, a, r, s'⟩
      · have hopen : LastSince StartSucceeded IsStop
            (moves ++ [⟨s, a, r, s'⟩]) := lastSince_snoc_of_opened hstart
        exact ⟨fun _ => hopen, fun _ => hmove.mpr (Or.inl hstart)⟩
      · rw [lastSince_snoc_of_not_opened hstart, ← ih]
        simpa [hstart] using hmove

theorem separated_of_run (hidle : w0.Idle)
    (hrun : Run (Serves lib env apiname) w0 moves w)
    {earlier between later : List RequestMove} {m m' : RequestMove}
    (hmoves : moves = earlier ++ m :: (between ++ m' :: later))
    (hm : StartSucceeded m) (hm' : StartSucceeded m') :
    exists s, s ∈ between ∧ IsStop s ∧ ¬ StopRefused s := by
  by_contra hnone
  rw [hmoves] at hrun
  rcases hrun.at_cut with ⟨hearlier, hserves, hrest⟩
  rcases hrest.at_cut with ⟨hbetween, hserves', _⟩
  have hserved := served_of_serves (served_of_run_snoc hidle hearlier) hserves
  have hpos := (startSucceeded_idle hserved hm).right
  have htracing : SessionInv m'.before ∧ 0 < m'.before.tracePidsNum := by
    refine Run.invariant_of_moves
      (I := fun s => SessionInv s ∧ 0 < s.tracePidsNum)
      (C := fun m => ¬ (IsStop m ∧ ¬ StopRefused m)) ⟨hserved.inv, hpos⟩ ?_
      hbetween ?_
    · intro s a r s' hI hstep hC
      have hstepServed := served_of_serves hI.left hstep
      have hnotStop : ¬ IsStop ⟨s, a, r, s'⟩ := by
        intro hstop
        have hrefused := stopRefused_iff hstepServed hstop
        have hnum : s.tracePidsNum ≠ 0 := Nat.ne_of_gt hI.right
        exact hC ⟨hstop, fun h => hnum (hrefused.mp h)⟩
      have hafter := tracePidsNum_pos_iff hstepServed
      exact ⟨hstepServed.inv, hafter.mpr (Or.inr ⟨hI.right, hnotStop⟩)⟩
    · intro x hx hstop
      exact hnone ⟨x, hx, hstop⟩
  have hserved' := served_of_serves htracing.left hserves'
  have hzero := (startSucceeded_idle hserved' hm').left
  exact absurd hzero (Nat.ne_of_gt htracing.right)

/-- What the protocol asks of a run. -/
structure FollowsProtocol (moves : List RequestMove) : Prop where
  each : forall m, m ∈ moves -> ProtocolMove m
  tracing : forall earlier m later, moves = earlier ++ m :: later ->
    (0 < m.after.tracePidsNum <->
      LastSince StartSucceeded IsStop (earlier ++ [m]))
  separated : forall earlier m between m' later,
    moves = earlier ++ m :: (between ++ m' :: later) ->
    StartSucceeded m -> StartSucceeded m' ->
    exists s, s ∈ between ∧ IsStop s ∧ ¬ StopRefused s

theorem followsProtocol_of_run (hidle : w0.Idle)
    (hrun : Run (Serves lib env apiname) w0 moves w) :
    FollowsProtocol moves where
  each := protocolMove_of_run hidle hrun
  tracing := by
    rintro earlier m later rfl
    rcases hrun.at_cut with ⟨hbefore, hserves, _⟩
    exact tracing_iff_of_run hidle (Run.snoc hbefore hserves)
  separated := by
    intro earlier m between m' later hmoves hm hm'
    exact separated_of_run hidle hrun hmoves hm hm'

theorem returns_traceStop (env : Env) (hinv : SessionInv w) :
    exists rc w', (traceStop env).run w = .ok rc w' := by
  rcases hinv with ⟨ps, hps, hnil⟩
  by_cases hempty : ps = []
  · exact ⟨_, _, run_traceStop_of_idle env (hnil hempty).num⟩
  · exact ⟨_, _, run_traceStop_of_recordIs hps hempty⟩

end Supervisor
end XdsService
