import XdsService.Supervisor.Accounting
import XdsService.Supervisor.Representation

/-!
# What becomes of the record's blocks

No block of `TracePidsArr` is used or freed after it was freed.  Blocks are
lost, though: where `trace_start` allocates the record over a block that it
holds, and where it fails with a block of no cells, which the label does not
free.
-/

namespace XdsService
namespace Supervisor

open Foundation
open Foundation.Blocks
open Foundation.Ghost
open Foundation.Logs
open Program

variable {lib : Libs} {env : Env} {apiname : Option String} {array : Prop}
variable {w w1 w' : World} {s s' : World × Ownership} {o : Ownership}

/-!
## Handlers
-/

theorem accounts_fillPids (items : List Json) (i : Nat) :
    Moves (Accounts array) AnyExit (Owned.fillPids lib i items) := by
  induction items generalizing i with
  | nil => exact moves_pure ()
  | cons ppid rest ih =>
      apply moves_bind (accounts_writePid i (lib.getInt ppid))
      intro _
      exact ih (i + 1)

theorem accounts_prefillRecord (a : TraceArgs) :
    Moves (Accounts (a.pids.isNull = false)) AnyExit
      (Owned.prefillRecord lib env a) := by
  unfold Owned.prefillRecord
  cases hitems : a.pids.items? with
  | none => exact moves_pure ()
  | some items =>
      have harray : a.pids.isNull = false := by
        cases hpids : a.pids with
        | null =>
            rw [hpids] at hitems
            cases hitems
        | _ => rfl
      dsimp only
      rw [← bind_assoc]
      apply moves_bind (accounts_malloc fun _ => harray)
      intro granted
      exact moves_ite (accounts_fillPids items 0)
        (accounts_lift apart_outOfMemory)

theorem accounts_overwriteRecord (pid : Int) :
    Moves (Accounts array) AnyExit (Owned.overwriteRecord env pid) := by
  unfold Owned.overwriteRecord
  rw [← bind_assoc]
  apply moves_bind (accounts_malloc fun hn => absurd hn Nat.one_ne_zero)
  intro granted
  exact moves_ite (accounts_writePid 0 pid) (accounts_lift apart_outOfMemory)

theorem apart_get : Moves Apart AnyExit (get : Handler World) where
  along := fun w => Std.Refl.refl w
  exits := fun _ => trivial

theorem accounts_appendRecord (harray : ¬ array) (pid : Int) :
    Moves (Accounts array) AnyExit (Owned.appendRecord env pid) := by
  apply moves_bind (accounts_lift apart_get)
  intro w
  rw [← bind_assoc]
  apply moves_bind (accounts_realloc harray w.tracePidsNum)
  intro granted
  exact moves_ite (accounts_writePid _ pid) (accounts_lift apart_outOfMemory)

theorem accounts_matchPids (level : Option String) (d : Daemon) (l : Locals) :
    Moves (Accounts array) AnyExit (Owned.matchPids env level d l) := by
  apply moves_bind (accounts_lift apart_get)
  intro w
  apply moves_foldlM
  intro l j
  apply moves_bind (accounts_readPid j)
  intro pid
  exact moves_ite (accounts_lift (apart_traceDaemonMacro d level l))
    (moves_pure l)

theorem accounts_scanSockets (harray : ¬ array) (a : TraceArgs) (d : Daemon)
    (sockets : List Json) (l : Locals) :
    Moves (Accounts array) AnyExit
      (Owned.scanSockets lib env a d sockets l) := by
  induction sockets with
  | nil => exact moves_pure l
  | cons socket rest ih =>
      apply moves_ite
      · apply moves_bind (accounts_lift (apart_traceDaemonMacro d a.level l))
        intro l
        apply moves_bind (accounts_appendRecord harray d.pid)
        intro _
        exact moves_pure l
      · exact ih

theorem accounts_selectDaemons (a : TraceArgs) (daemons : List Daemon)
    (l : Locals) :
    Moves (Accounts (a.pids.isNull = false)) AnyExit
      (Owned.selectDaemons lib env a daemons l) := by
  induction daemons generalizing l with
  | nil => exact moves_pure l
  | cons d rest ih =>
      unfold Owned.selectDaemons
      apply moves_ite
      · apply moves_bind (accounts_lift (apart_traceDaemonMacro d a.level l))
        intro l
        apply moves_bind (accounts_overwriteRecord d.pid)
        intro _
        exact moves_pure l
      · split
        · apply moves_bind (accounts_matchPids a.level d l)
          intro l
          exact ih l
        · rename_i harray
          apply moves_bind (accounts_lift (apart_arrayItems d.wsServers))
          intro servers
          apply moves_bind (accounts_scanSockets harray a d servers l)
          intro l
          apply moves_bind (accounts_lift (apart_arrayItems d.wsClients))
          intro clients
          apply moves_bind (accounts_scanSockets harray a d clients l)
          intro l
          exact ih l

theorem accounts_traceStartBody (a : TraceArgs) :
    Moves (Accounts (a.pids.isNull = false)) AnyExit
      (Owned.traceStartBody lib env apiname a) := by
  apply moves_bind (accounts_prefillRecord a)
  intro _
  apply moves_bind (accounts_lift apart_getDaemons)
  intro found
  apply moves_ite
  · apply accounts_lift
    exact moves_bind (apart_reqFail _ _) fun _ => moves_throw trivial
  · apply moves_bind (accounts_selectDaemons a _ _)
    intro l
    apply accounts_lift
    apply moves_ite
    · exact moves_bind (apart_reqFail _ _) fun _ => moves_throw trivial
    · exact moves_bind (apart_reqSuccess _ _) fun _ => moves_pure _

theorem accounts_dropRecorded :
    Moves (Accounts array) AnyExit (Owned.dropRecorded env) := by
  apply moves_bind (accounts_lift apart_get)
  intro w
  apply moves_foldlM
  intro nbErr j
  apply moves_bind (accounts_readPid j)
  intro pid
  apply moves_bind (accounts_lift (apart_traceDrop pid))
  intro rc
  exact moves_pure _

/-!
## Giving the record back
-/

/-- What the label `error` and the end of `trace_stop` do with the block. -/
def released (s : World × Ownership) : Ownership :=
  (if 0 < s.1.tracePidsNum then s.2.free else s.2).clear

theorem owns_clear (h : Obeys InOrder o.ops) (w : World) :
    Owns (w.clearRecord, o.clear) where
  ordered := h
  pointer := rfl
  live := by
    intro block hblock
    cases hblock

/-- The block is given back unless it has no cells: then it is lost. -/
theorem release_account (h : Tidy array s) :
    Owns (s.1.clearRecord, released s) ∧
      (lostBlocks (released s)).card = (account s).lost +
        if (account s).block = some 0 then 1 else 0 := by
  have hfree := h.owns.free
  have hcard := card_allocated h.owns
  unfold released
  split
  · rename_i hpos
    constructor
    · exact owns_clear hfree.left s.1
    · have hblock : (account s).block ≠ some 0 :=
        fun hempty => Nat.ne_of_gt hpos (h.empty hempty).left
      rw [if_neg hblock]
      exact congrArg Finset.card hfree.right
  · rename_i hzero
    constructor
    · exact owns_clear h.owns.ordered s.1
    · show (allocated s.2.ops).card = _
      rw [hcard]
      rcases h.counted (Nat.eq_zero_of_not_pos hzero) with hblock | hblock
      · rw [hblock]
        rfl
      · rw [hblock]
        rfl

/-!
## Requests
-/

/--
The blocks that a request loses: one for each malloc over a block that it held
itself, and one if it fails with a block of no cells.
-/
def lostIn (m : RequestMove) : Nat :=
  ((Account.mk none 0).afterAll (events m)).lost +
    if ((Account.mk none 0).afterAll (events m)).block = some 0 ∧ m.answer ≠ 0
      then 1 else 0

def lostInAll : List RequestMove -> Nat
  | [] => 0
  | m :: rest => lostIn m + lostInAll rest

theorem lostInAll_snoc (moves : List RequestMove) (m : RequestMove) :
    lostInAll (moves ++ [m]) = lostInAll moves + lostIn m := by
  induction moves with
  | nil => exact Nat.add_comm (lostIn m) 0
  | cons first rest ih =>
      show lostIn first + lostInAll (rest ++ [m]) = _
      rw [ih, ← Nat.add_assoc]
      rfl

variable {request : Request} {rc : Int}

theorem events_of_log {more : List Event} (h : w'.log = w.log ++ more) :
    events ⟨w, request, rc, w'⟩ = more :=
  World.eventsSince_of_log h

theorem lostIn_of_log {more : List Event} (h : w'.log = w.log ++ more)
    (hall : forall e, e ∈ more -> e.isRecord = false) :
    lostIn ⟨w, request, rc, w'⟩ = 0 := by
  unfold lostIn
  rw [events_of_log h, Account.afterAll_of_not_isRecord hall]
  rfl

theorem lostIn_of_apart (h : Apart w w') :
    lostIn ⟨w, request, rc, w'⟩ = 0 := by
  rcases h.log with ⟨more, hlog, hall⟩
  exact lostIn_of_log hlog hall

/-- The blocks after a request, however it ended, and what it has lost. -/
structure Kept (s : World × Ownership) (request : Request)
    (result : EStateM.Result Exit (World × Ownership) Int) : Prop where
  ordered : Obeys InOrder (finalState result).2.ops
  owns : forall {rc s'}, result = .ok rc s' -> Owns s'
  lost : forall {rc s'}, result = .ok rc s' ->
    (account s').lost = (account s).lost + lostIn ⟨s.1, request, rc, s'.1⟩

theorem owns_of_apart (h : Owns s) (hapart : Apart s.1 w) : Owns (w, s.2) where
  ordered := h.ordered
  pointer := by
    rw [hapart.same.arr]
    exact h.pointer
  live := h.live

theorem kept_lift (h : Owns s) {m : Handler Int} (hm : Moves Apart AnyExit m) :
    Kept s request ((lift m : OwnedHandler Int).run s) := by
  constructor
  · rw [finalState_run_lift]
    exact h.ordered
  · rintro rc ⟨w, o⟩ hrun
    rcases run_lift_eq_ok hrun with ⟨hworld, rfl⟩
    exact owns_of_apart h (hm.ok hworld)
  · rintro rc ⟨w, o⟩ hrun
    rcases run_lift_eq_ok hrun with ⟨hworld, rfl⟩
    rw [lostIn_of_apart (hm.ok hworld)]
    rfl

theorem tidy_of_idle (h : Owns s) (hidle : s.1.Idle) : Tidy array s := by
  have hblock : (account s).block = none := by
    show s.1.tracePidsArr.map List.length = none
    rw [hidle.arr]
    rfl
  constructor
  · exact h
  · intro hempty
    cases hblock.symm.trans hempty
  · intro _
    exact Or.inl hblock

theorem tidy_of_tracing (h : Owns s) (hinv : SessionInv s.1)
    (hpos : 0 < s.1.tracePidsNum) : Tidy array s := by
  rcases hinv with ⟨ps, hps, _⟩
  have hne := Nat.ne_of_gt hpos
  constructor
  · exact h
  · intro hempty
    rcases Option.map_eq_some_iff.mp hempty with ⟨cells, harr, hlength⟩
    have hheld := hps.held.length_le
    rw [World.cells, harr, Option.getD_some, hlength, List.length_map,
      ← hps.num] at hheld
    exact absurd (Nat.le_zero.mp hheld) hne
  · intro hzero
    exact absurd hzero hne

theorem rc_of_traceStartBody {a : TraceArgs}
    (h : (traceStartBody lib env apiname a).run w = .ok rc w') : rc = 0 := by
  rcases run_bind_eq_ok h with ⟨_, w1, _, hfound⟩
  rcases run_bind_eq_ok hfound with ⟨found, w2, _, hselected⟩
  unfold traceFound at hselected
  split at hselected
  · cases hselected
  · rcases run_bind_eq_ok hselected with ⟨l, w3, _, hanswer⟩
    split at hanswer
    · cases hanswer
    · cases hanswer
      rfl

theorem kept_withErrorLabel (h : Owns s) (hidle : s.1.Idle) (a : TraceArgs) :
    Kept s request ((Owned.withErrorLabel
      (Owned.traceStartBody lib env apiname a)).run s) := by
  have htidy : Tidy (a.pids.isNull = false) s := tidy_of_idle h hidle
  have hnone : account s = ⟨none, (account s).lost⟩ := by
    show Account.mk (s.1.tracePidsArr.map List.length) _ = _
    rw [hidle.arr]
    rfl
  have hmoves := @accounts_traceStartBody lib env apiname a
  cases hrun : (Owned.traceStartBody lib env apiname a).run s with
  | ok rc s' =>
      rcases hmoves.ok hrun with ⟨more, hlog, haccounts⟩
      rcases haccounts htidy with ⟨htidy', haccount⟩
      rw [hnone, Account.afterAll_add] at haccount
      have hrc := rc_of_traceStartBody
        ((Owned.erases_traceStartBody a).of_ok hrun)
      rw [Owned.run_withErrorLabel_of_ok hrun]
      constructor
      · exact htidy'.owns.ordered
      · intro rc' s1 hresult
        cases hresult
        exact htidy'.owns
      · intro rc' s1 hresult
        cases hresult
        rw [haccount, lostIn, events_of_log hlog, hrc]
        simp
  | error e s2 =>
      rcases hmoves.error hrun with ⟨more, hlog, haccounts⟩
      rcases haccounts htidy with ⟨htidy2, haccount⟩
      rw [hnone, Account.afterAll_add] at haccount
      cases e with
      | fault f =>
          rw [Owned.run_withErrorLabel_of_fault hrun]
          constructor
          · exact htidy2.owns.ordered
          · intro rc s' hresult
            cases hresult
          · intro rc s' hresult
            cases hresult
      | gotoError =>
          rcases release_account htidy2 with ⟨howns, hlost⟩
          have hlabel : Owned.atLabel.run s2 =
              .ok errorCode (s2.1.clearRecord, released s2) := rfl
          rw [Owned.run_withErrorLabel_of_gotoError hrun, hlabel]
          constructor
          · exact howns.ordered
          · intro rc s' hresult
            cases hresult
            exact howns
          · intro rc s' hresult
            cases hresult
            have hlog' : s2.1.clearRecord.log = s.1.log ++ more := hlog
            show (lostBlocks (released s2)).card = _
            rw [hlost, haccount, lostIn, events_of_log hlog']
            simp [errorCode_ne_zero, Nat.add_assoc]

theorem kept_traceStart (h : Owns s) (hinv : SessionInv s.1) (queryJ : Json) :
    Kept s (Request.traceStart queryJ)
      ((Owned.traceStart lib env apiname queryJ).run s) := by
  have hfails : forall status info, Moves Apart AnyExit (do
      reqFail status info
      pure errorCode : Handler Int) :=
    fun status info => moves_bind (apart_reqFail status info)
      fun _ => moves_pure errorCode
  unfold Owned.traceStart
  cases lib.unpackQuery queryJ with
  | none => exact kept_lift h (hfails _ _)
  | some q =>
      show Kept s _ ((Owned.traceStartArgs lib env apiname
        (TraceArgs.ofQuery q)).run s)
      unfold Owned.traceStartArgs
      split
      · exact kept_lift h (hfails _ _)
      · have hget : (lift get : OwnedHandler World).run s = .ok s.1 s := rfl
        rw [run_bind_of_ok hget]
        split
        · exact kept_lift h (hfails _ _)
        · rename_i hzero
          have hidle := hinv.idle (Nat.eq_zero_of_not_pos hzero)
          exact kept_withErrorLabel h hidle _

theorem apart_dropRecorded : Moves Apart AnyExit (dropRecorded env) := by
  apply moves_bind apart_get
  intro w
  apply moves_foldlM
  intro nbErr j
  apply moves_bind (apart_readPid j)
  intro pid
  apply moves_bind (apart_traceDrop pid)
  intro rc
  exact moves_pure _

/-- A program that is apart from the record keeps the account. -/
theorem account_of_apart (htidy : Tidy array s) (haccounts : Accounts array s s')
    (hapart : Apart s.1 s'.1) : Tidy array s' ∧ account s' = account s := by
  rcases haccounts with ⟨events, hlog, haccount⟩
  rcases hapart.log with ⟨events', hlog', hall⟩
  have heq : events = events' :=
    List.append_cancel_left (hlog.symm.trans hlog')
  rw [← heq] at hall
  rcases haccount htidy with ⟨htidy', haccount'⟩
  rw [Account.afterAll_of_not_isRecord hall] at haccount'
  exact ⟨htidy', haccount'⟩

/-- The end of `trace_stop`, once the recorded pids were dropped. -/
theorem kept_release {s2 : World × Ownership} {m : Handler Int}
    (hm : Moves Apart AnyExit m) (htidy : Tidy array s2)
    (haccount : account s2 = account s) (hapart : Apart s.1 s2.1)
    (hpos : 0 < s.1.tracePidsNum) :
    Kept s request ((lift m : OwnedHandler Int).run
      (s2.1.clearRecord, released s2)) := by
  rcases release_account htidy with ⟨howns, hlost⟩
  have hblock : (account s2).block ≠ some 0 := by
    intro hempty
    have hzero := (htidy.empty hempty).left
    rw [hapart.same.num] at hzero
    exact Nat.ne_of_gt hpos hzero
  rw [if_neg hblock, haccount] at hlost
  constructor
  · rw [finalState_run_lift]
    exact howns.ordered
  · rintro rc ⟨w, o⟩ hrun
    rcases run_lift_eq_ok hrun with ⟨hworld, rfl⟩
    exact owns_of_apart howns (hm.ok hworld)
  · rintro rc ⟨w, o⟩ hrun
    rcases run_lift_eq_ok hrun with ⟨hworld, rfl⟩
    have hlast := hm.ok hworld
    rcases hapart.log with ⟨events, hlog, hall⟩
    rcases hlast.log with ⟨events', hlog', hall'⟩
    have hlog2 : w.log = s.1.log ++ (events ++ events') := by
      rw [← List.append_assoc, ← hlog]
      exact hlog'
    have hnone : forall e, e ∈ events ++ events' -> e.isRecord = false := by
      intro e he
      rcases List.mem_append.mp he with he | he
      · exact hall e he
      · exact hall' e he
    rw [lostIn_of_log hlog2 hnone]
    exact hlost

theorem kept_traceStop (h : Owns s) (hinv : SessionInv s.1) :
    Kept s Request.traceStop ((Owned.traceStop env).run s) := by
  have hget : (lift get : OwnedHandler World).run s = .ok s.1 s := rfl
  unfold Owned.traceStop
  rw [run_bind_of_ok hget]
  split
  · exact kept_lift h (moves_bind (apart_reqFail _ _) fun _ => moves_pure _)
  · rename_i hnum
    have hpos := Nat.pos_of_ne_zero hnum
    have htidy : Tidy True s := tidy_of_tracing h hinv hpos
    have hdrops : Moves (Accounts True) AnyExit (Owned.dropRecorded env) :=
      accounts_dropRecorded
    cases hrun : (Owned.dropRecorded env).run s with
    | error e s2 =>
        rcases hdrops.error hrun with ⟨_, _, haccounts⟩
        rw [run_bind_of_error hrun]
        constructor
        · exact (haccounts htidy).left.owns.ordered
        · intro rc s' hresult
          cases hresult
        · intro rc s' hresult
          cases hresult
    | ok nbErr s2 =>
        have hapart := apart_dropRecorded.ok
          (Owned.erases_dropRecorded.of_ok hrun)
        rcases account_of_apart htidy (hdrops.ok hrun) hapart with
          ⟨htidy2, haccount⟩
        have hrelease : Owned.releaseRecord.run s2 =
            .ok () (s2.1.clearRecord, released s2) := rfl
        rw [run_bind_of_ok hrun, run_bind_of_ok hrelease]
        apply kept_release _ htidy2 haccount hapart hpos
        apply moves_ite
        · exact moves_bind (apart_reqFail _ _) fun _ => moves_pure _
        · exact moves_bind (apart_reqSuccess _ _) fun _ => moves_pure _

theorem kept_handle (h : Owns s) (hinv : SessionInv s.1) (request : Request) :
    Kept s request ((Owned.handle lib env apiname request).run s) := by
  cases request with
  | list => exact kept_lift h apart_list
  | traceStart queryJ => exact kept_traceStart h hinv queryJ
  | traceStop => exact kept_traceStop h hinv

/-!
## Runs
-/

theorem exists_serves {t : World} {t' : World}
    (hserves : Serves lib env apiname t request rc t') (g : Ownership) :
    exists g', Owned.Serves lib env apiname (t, g) request rc (t', g') :=
  (Owned.erases_handle request).exists_ok hserves

theorem blocks_of_run {owned : List (Move (World × Ownership) Request Int)}
    (hrun : Run (Owned.Serves lib env apiname)
      (World.initial, Ownership.initial) owned s) :
    Owns s ∧ SessionInv s.1 ∧
      (account s).lost = lostInAll (owned.map eraseMove) := by
  induction hrun with
  | nil =>
      refine ⟨⟨obeys_nil, rfl, ?_⟩, World.initial_idle.sessionInv, rfl⟩
      intro block hblock
      cases hblock
  | @snoc moves s1 s2 request rc _ hlast ih =>
      rcases ih with ⟨howns, hinv, hlost⟩
      have hkept := @kept_handle lib env apiname s1 howns hinv request
      have hserves := (Owned.erases_handle _).of_ok hlast
      refine ⟨hkept.owns hlast, (served_of_serves hinv hserves).inv, ?_⟩
      rw [hkept.lost hlast, hlost, List.map_append]
      exact (lostInAll_snoc _ _).symm

end Supervisor
end XdsService
