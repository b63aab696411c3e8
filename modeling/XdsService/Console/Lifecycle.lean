import XdsService.Console.Listening

/-!
# Open, closed and failed connections

The function `onabort` of `init` hides the page whichever socket calls it, and
`onopen` shows it.  A connection that ends calls `onabort` once, one that fails
twice, and after that the method close has nothing left to call.
-/

namespace XdsService
namespace Console

open Foundation
open Foundation.Program
open Websock

variable {number : Int -> Int -> List Char}
variable {tab tab' : Tab} {socket socket' : Socket} {i : Nat}
variable {moves : List (Move Tab TabAction Unit)}
variable {move : Move Tab TabAction Unit}

/-!
## What happens to a socket
-/

def TabAction.opens (i : Nat) : TabAction -> Bool
  | opened j => decide (i = j)
  | _ => false

def TabAction.ends (i : Nat) : TabAction -> Bool
  | closed j _ => decide (i = j)
  | _ => false

def TabAction.fails (i : Nat) : TabAction -> Bool
  | closed j failed => decide (i = j) && failed
  | _ => false

def TabAction.closes (i : Nat) : TabAction -> Bool
  | close j => decide (i = j)
  | _ => false

def hasFailed (i : Nat) (moves : List (Move Tab TabAction Unit)) : Bool :=
  moves.any fun move => move.action.fails i

def count (check : TabAction -> Bool)
    (moves : List (Move Tab TabAction Unit)) : Nat :=
  moves.countP fun move => check move.action

/-- The calls of the method close before the connection failed. -/
def closeCalls (i : Nat) (moves : List (Move Tab TabAction Unit)) : Nat :=
  count (TabAction.closes i) (moves.takeWhile fun move => !move.action.fails i)

/-- How often `onabort` was called. -/
def abortCalls (fired : List (Nat × Option Json)) : Nat :=
  fired.countP fun call => decide (call.1 = abort)

theorem count_snoc (check : TabAction -> Bool)
    (moves : List (Move Tab TabAction Unit)) (move : Move Tab TabAction Unit) :
    count check (moves ++ [move]) =
      count check moves + if check move.action then 1 else 0 := by
  simp [count]

theorem hasFailed_snoc (moves : List (Move Tab TabAction Unit))
    (move : Move Tab TabAction Unit) :
    hasFailed i (moves ++ [move]) =
      (hasFailed i moves || move.action.fails i) := by
  simp [hasFailed]

theorem closeCalls_of_not_hasFailed (h : hasFailed i moves = false) :
    closeCalls i moves = count (TabAction.closes i) moves := by
  unfold closeCalls
  rw [List.takeWhile_eq_self_iff.mpr]
  intro move hmem
  have hnot := List.any_eq_false.mp h move hmem
  simpa using hnot

theorem closeCalls_snoc (moves : List (Move Tab TabAction Unit))
    (move : Move Tab TabAction Unit) :
    closeCalls i (moves ++ [move]) = closeCalls i moves +
      if !hasFailed i moves && move.action.closes i then 1 else 0 := by
  cases hfailed : hasFailed i moves with
  | true =>
      have hcut : ((moves ++ [move]).takeWhile fun move =>
          !move.action.fails i) =
          moves.takeWhile fun move => !move.action.fails i := by
        rcases List.any_eq_true.mp hfailed with ⟨failing, hmem, hfails⟩
        rw [List.takeWhile_append, if_neg]
        intro hlength
        have hall := (List.takeWhile_prefix _).eq_of_length hlength
        have hnot := List.takeWhile_eq_self_iff.mp hall failing hmem
        rw [hfails] at hnot
        cases hnot
      unfold closeCalls
      rw [hcut]
      rfl
  | false =>
      rw [closeCalls_of_not_hasFailed hfailed]
      cases hfails : move.action.fails i with
      | false =>
          rw [closeCalls_of_not_hasFailed, count_snoc]
          · rfl
          · rw [hasFailed_snoc, hfailed, hfails]
            rfl
      | true =>
          have hcloses : move.action.closes i = false := by
            cases haction : move.action with
            | closed j failed => rfl
            | _ =>
                rw [haction] at hfails
                cases hfails
          have hall : forall other, other ∈ moves ->
              (!other.action.fails i) = true := by
            intro other hmem
            have hnot := List.any_eq_false.mp hfailed other hmem
            simpa using hnot
          unfold closeCalls
          rw [List.takeWhile_append_of_pos hall, hcloses]
          simp [hfails]

theorem abortCalls_append (fired fired' : List (Nat × Option Json)) :
    abortCalls (fired ++ fired') = abortCalls fired + abortCalls fired' :=
  List.countP_append

/-- What has become of a socket, told by the actions about it. -/
structure Lived (moves : List (Move Tab TabAction Unit)) (i : Nat)
    (socket : Socket) : Prop where
  onabort : socket.onabort = !hasFailed i moves
  aborts : abortCalls socket.page.fired = closeCalls i moves +
    count (TabAction.ends i) moves + count (TabAction.fails i) moves
  ended : count (TabAction.ends i) moves =
    if socket.readyState = ReadyState.closed then 1 else 0
  opened : count (TabAction.opens i) moves ≤
    if socket.readyState = ReadyState.connecting then 0 else 1

/-- An action that is not about the socket. -/
theorem Lived.of_other (h : Lived moves i socket)
    (hopens : move.action.opens i = false) (hends : move.action.ends i = false)
    (hcloses : move.action.closes i = false)
    (honabort : socket'.onabort = socket.onabort)
    (hfired : abortCalls socket'.page.fired = abortCalls socket.page.fired)
    (hstate : socket'.readyState = socket.readyState) :
    Lived (moves ++ [move]) i socket' := by
  have hfails : move.action.fails i = false := by
    cases haction : move.action with
    | closed j failed =>
        rw [haction] at hends
        show (decide (i = j) && failed) = false
        rw [show decide (i = j) = false from hends]
        rfl
    | _ => rfl
  constructor
  · rw [honabort, h.onabort, hasFailed_snoc, hfails, Bool.or_false]
  · rw [hfired, h.aborts, closeCalls_snoc, count_snoc, count_snoc, hcloses,
      hends, hfails, Bool.and_false]
    rfl
  · rw [count_snoc, hends, hstate, h.ended]
    rfl
  · rw [count_snoc, hopens, hstate]
    exact h.opened

theorem opened_le_one (h : Lived moves i socket) :
    count (TabAction.opens i) moves ≤ 1 := by
  apply Nat.le_trans h.opened
  split
  · exact Nat.zero_le 1
  · exact Nat.le_refl 1

/-- Nothing failed before a socket is closed. -/
theorem not_hasFailed_of_open (h : Lived moves i socket)
    (hopen : socket.readyState ≠ ReadyState.closed) :
    hasFailed i moves = false := by
  have hended := h.ended
  rw [if_neg hopen] at hended
  unfold hasFailed
  rw [List.any_eq_false]
  intro move hmem hfails
  have hends : move.action.ends i = true := by
    cases haction : move.action with
    | closed j failed =>
        rw [haction] at hfails
        exact (Bool.and_eq_true_iff.mp hfails).left
    | _ =>
        rw [haction] at hfails
        cases hfails
  exact List.countP_eq_zero.mp hended move hmem hends

theorem lived_opened (h : Lived moves i socket)
    (haction : move.action = TabAction.opened i)
    (hconnecting : socket.readyState = ReadyState.connecting)
    (honabort : socket'.onabort = socket.onabort)
    (hfired : socket'.page.fired = socket.page.fired)
    (hstate : socket'.readyState = ReadyState.opened) :
    Lived (moves ++ [move]) i socket' := by
  have hended := h.ended
  have hopened := h.opened
  rw [hconnecting, if_neg ReadyState.noConfusion] at hended
  rw [hconnecting, if_pos rfl] at hopened
  constructor
  · rw [honabort, h.onabort, hasFailed_snoc, haction]
    exact congrArg _ (Bool.or_false _).symm
  · rw [hfired, h.aborts, closeCalls_snoc, count_snoc, count_snoc, haction]
    simp [TabAction.closes, TabAction.ends, TabAction.fails]
  · rw [count_snoc, hended, hstate, haction]
    rfl
  · rw [count_snoc, hstate, haction]
    have hone : (if (TabAction.opened i).opens i = true then 1 else 0) ≤ 1 := by
      split
      · exact Nat.le_refl 1
      · exact Nat.zero_le 1
    exact Nat.add_le_add hopened hone

theorem lived_ended {failed : Bool} {token : Option Json}
    (h : Lived moves i socket)
    (haction : move.action = TabAction.closed i failed)
    (hopen : socket.readyState ≠ ReadyState.closed)
    (honclose : socket.page.onclose = some abort) :
    Lived (moves ++ [move]) i (socket.afterClosed token failed) := by
  have hhealthy := not_hasFailed_of_open h hopen
  have honabort : socket.onabort = true := by
    rw [h.onabort, hhealthy]
    rfl
  have hended := h.ended
  rw [if_neg hopen] at hended
  have hends : (TabAction.closed i failed).ends i = true :=
    decide_eq_true rfl
  have hfails : (TabAction.closed i failed).fails i = failed := by
    show (decide (i = i) && failed) = failed
    rw [decide_eq_true rfl]
    rfl
  constructor
  · rw [hasFailed_snoc, hhealthy, haction, hfails]
    show (socket.onabort && !failed) = _
    rw [honabort, Bool.true_and, Bool.false_or]
  · have hfired : (socket.afterClosed token failed).page.fired =
        socket.page.fired ++ socket.aborts failed ++ [(abort, none)] := by
      show _ ++ socket.page.onclose.toList.map _ = _
      rw [honclose]
      rfl
    rw [hfired, abortCalls_append, abortCalls_append, h.aborts, closeCalls_snoc,
      count_snoc, count_snoc, haction, hends, hfails]
    unfold Socket.aborts
    rw [honabort]
    cases failed with
    | false =>
        simp [abortCalls, TabAction.closes]
        omega
    | true =>
        simp [abortCalls, TabAction.closes]
        omega
  · rw [count_snoc, hended, haction, hends]
    rfl
  · rw [count_snoc, haction]
    exact opened_le_one h

theorem lived_closes (h : Lived moves i socket) {token : Option Json}
    (haction : move.action = TabAction.close i) :
    Lived (moves ++ [move]) i { socket with
      readyState := socket.readyState.close
      page := if socket.onabort then
        Page.aborted { socket.page with token := token } else socket.page } := by
  have hclosed : socket.readyState.close = ReadyState.closed <->
      socket.readyState = ReadyState.closed := by
    cases socket.readyState <;> simp [ReadyState.close]
  constructor
  · rw [hasFailed_snoc, haction]
    exact h.onabort.trans (congrArg _ (Bool.or_false _).symm)
  · have hcloses : (TabAction.close i).closes i = true := decide_eq_true rfl
    rw [closeCalls_snoc, count_snoc, count_snoc, haction, hcloses,
      Bool.and_true, ← h.onabort]
    cases honabort : socket.onabort with
    | true =>
        show abortCalls (socket.page.fired ++ [(abort, none)]) = _
        rw [abortCalls_append, h.aborts]
        simp [abortCalls, TabAction.ends, TabAction.fails]
        omega
    | false =>
        show abortCalls socket.page.fired = _
        rw [h.aborts]
        simp [TabAction.ends, TabAction.fails]
  · rw [count_snoc, haction, h.ended]
    simp only [hclosed]
    rfl
  · rw [count_snoc, haction]
    have hone := opened_le_one h
    have hne := (close_ne socket.readyState).left
    simp only [hne, if_false]
    exact hone

theorem not_about_of_not_touches {action : TabAction}
    (h : ¬ action.Touches tab i) :
    action.opens i = false ∧ action.ends i = false ∧
      action.closes i = false := by
  cases action with
  | opened j =>
      exact ⟨decide_eq_false fun hi => h (Or.inl hi), rfl, rfl⟩
  | closed j failed => exact ⟨rfl, decide_eq_false h, rfl⟩
  | close j => exact ⟨rfl, rfl, decide_eq_false h⟩
  | _ => exact ⟨rfl, rfl, rfl⟩

theorem not_about_of_asks {action : TabAction} {asked : String × Json}
    (h : action.asks? = some asked) :
    action.opens i = false ∧ action.ends i = false ∧
      action.closes i = false := by
  cases action with
  | callbinder api verb query => exact ⟨rfl, rfl, rfl⟩
  | graphAGLBindings => exact ⟨rfl, rfl, rfl⟩
  | _ => cases h

theorem abortCalls_of_message (h : Listens moves i socket) (m : Message) :
    abortCalls (finalState ((onmessage m).run (tab.pageOf socket))).fired =
      abortCalls socket.page.fired := by
  rw [fired_of_message h m, abortCalls_append]
  have hnone : abortCalls (if m.IsReply then [] else List.replicate
      (starLookups m.id * registeredFor i moves) (logEvent, m.ans)) = 0 := by
    unfold abortCalls
    rw [List.countP_eq_zero]
    intro call hcall
    split at hcall
    · cases hcall
    · rw [List.eq_of_mem_replicate hcall]
      exact Bool.false_ne_true
  rw [hnone, Nat.add_zero]

theorem lived_step {answer : Unit} {after : Tab} {action : TabAction}
    (hlistens : Listens moves i socket) (h : Lived moves i socket)
    (hsocket : tab.sockets[i]? = some socket)
    (htab : TabStep number tab action answer after)
    (hstep : SocketStep tab i socket action socket') :
    Lived (moves ++ [⟨tab, action, answer, after⟩]) i socket' := by
  cases hstep with
  | idle htouches =>
      rcases not_about_of_not_touches htouches with ⟨hopens, hends, hcloses⟩
      exact h.of_other hopens hends hcloses rfl rfl rfl
  | calls hasks _ _ =>
      rcases not_about_of_asks (i := i) hasks with ⟨hopens, hends, hcloses⟩
      exact h.of_other hopens hends hcloses rfl rfl rfl
  | opens hws =>
      have henabled : tab.sockets[i]?.map Socket.readyState =
          some ReadyState.connecting := enabled_of_tabStep htab
      rw [hsocket] at henabled
      exact lived_opened h rfl (Option.some.inj henabled) rfl rfl rfl
  | @authorizes j counter hws hchosen =>
      by_cases hij : i = j
      · subst hij
        have henabled : tab.sockets[i]?.map Socket.readyState =
            some ReadyState.connecting := enabled_of_tabStep htab
        rw [hsocket] at henabled
        exact lived_opened h rfl (Option.some.inj henabled) rfl rfl (if_pos rfl)
      · exact h.of_other (decide_eq_false hij) rfl rfl rfl rfl
          (if_neg (Ne.symm hij))
  | @receives m =>
      exact h.of_other rfl rfl rfl rfl (abortCalls_of_message hlistens m) rfl
  | @ends failed =>
      rcases tabStep_closed htab with ⟨other, _, hother, hopen, _, _⟩
      rw [hsocket] at hother
      cases hother
      exact lived_ended h rfl hopen hlistens.onclose
  | closes => exact lived_closes h rfl

theorem not_about {action : TabAction} (h : action.about? ≠ some i) :
    action.opens i = false ∧ action.ends i = false ∧
      action.closes i = false ∧ action.fails i = false := by
  cases action with
  | opened j =>
      exact ⟨decide_eq_false fun hi => h (congrArg some hi.symm), rfl, rfl, rfl⟩
  | closed j failed =>
      have hi : decide (i = j) = false :=
        decide_eq_false fun hi => h (congrArg some hi.symm)
      refine ⟨rfl, hi, rfl, ?_⟩
      show (decide (i = j) && failed) = false
      rw [hi]
      rfl
  | close j =>
      exact ⟨rfl, rfl, decide_eq_false fun hi => h (congrArg some hi.symm), rfl⟩
  | _ => exact ⟨rfl, rfl, rfl, rfl⟩

theorem count_eq_zero {check : TabAction -> Bool}
    (h : forall move, move ∈ moves -> check move.action = false) :
    count check moves = 0 := by
  unfold count
  rw [List.countP_eq_zero]
  intro move hmem hcheck
  rw [h move hmem] at hcheck
  cases hcheck

theorem lived_fresh {url : String} {token : Option Json}
    (h : forall move, move ∈ moves -> move.action.about? ≠ some i) :
    Lived moves i (Socket.fresh url token) := by
  have hhealthy : hasFailed i moves = false := by
    unfold hasFailed
    rw [List.any_eq_false]
    intro move hmem
    rw [(not_about (h move hmem)).right.right.right]
    exact Bool.false_ne_true
  have hopens : count (TabAction.opens i) moves = 0 :=
    count_eq_zero fun move hmem => (not_about (h move hmem)).left
  have hends : count (TabAction.ends i) moves = 0 :=
    count_eq_zero fun move hmem => (not_about (h move hmem)).right.left
  have hcloses : count (TabAction.closes i) moves = 0 :=
    count_eq_zero fun move hmem => (not_about (h move hmem)).right.right.left
  have hfails : count (TabAction.fails i) moves = 0 :=
    count_eq_zero fun move hmem => (not_about (h move hmem)).right.right.right
  constructor
  · rw [hhealthy]
    rfl
  · rw [closeCalls_of_not_hasFailed hhealthy, hcloses, hends, hfails]
    rfl
  · rw [hends]
    rfl
  · rw [hopens]
    exact Nat.zero_le _

theorem lived_of_run {start : Tab} (hstart : start.sockets = [])
    (hrun : Run (TabStep number) start moves tab) :
    forall (i : Nat) (socket : Socket), tab.sockets[i]? = some socket ->
      Lived moves i socket := by
  refine forall_sockets (I := Lived) hstart ?_ ?_ hrun
  · intro moves move url hbefore _ haction _
    apply lived_fresh
    intro other hmem
    rcases List.mem_append.mp hmem with hmem | hmem
    · exact not_about_later hbefore other hmem _ (Nat.le_refl _)
    · rw [List.mem_singleton.mp hmem, haction]
      exact fun habout => by cases habout
  · intro moves move j socket socket' hbefore htab hsocket hlived hstep
    exact lived_step (listens_of_run hstart hbefore j socket hsocket) hlived
      hsocket htab hstep

/-!
## What the page shows
-/

/-- The action calls the function `onabort` of some socket. -/
def Hides (tab : Tab) : TabAction -> Prop
  | TabAction.closed _ _ => True
  | TabAction.close i =>
      exists socket, tab.sockets[i]? = some socket ∧ socket.onabort = true
  | _ => False

theorem abort_mem_handlerCalls_iff {action : TabAction} {answer : Unit}
    (hlistens : forall (i : Nat) (socket : Socket),
      tab.sockets[i]? = some socket -> Listens moves i socket)
    (h : TabStep number tab action answer tab') :
    abort ∈ (action.handlerCalls tab).map Prod.fst <-> Hides tab action := by
  cases action with
  | message i m =>
      rcases tabStep_message h with ⟨socket, hsocket, _, _⟩
      show abort ∈ (tab.callsAt i _).map Prod.fst <-> False
      rw [callsAt_of_some hsocket,
        firedSince_append (fired_of_message (hlistens i socket hsocket) m)]
      split
      · simp
      · simp [abort, logEvent]
  | closed i failed =>
      rcases tabStep_closed h with ⟨socket, middle, hsocket, _, _, _⟩
      show abort ∈ (tab.callsAt i _).map Prod.fst <-> True
      rw [callsAt_of_some hsocket]
      unfold Socket.endCalls
      rw [(hlistens i socket hsocket).onclose]
      simp
  | close i =>
      rcases tabStep_close h with ⟨socket, middle, hsocket, _, _⟩
      show abort ∈ (tab.callsAt i _).map Prod.fst <-> exists socket, _ ∧ _
      rw [callsAt_of_some hsocket, hsocket]
      cases honabort : socket.onabort with
      | true => simp [honabort]
      | false => simp [honabort]
  | init => exact iff_of_false List.not_mem_nil id
  | callbinder api verb query => exact iff_of_false List.not_mem_nil id
  | graphAGLBindings => exact iff_of_false List.not_mem_nil id
  | opened i => exact iff_of_false List.not_mem_nil id

/-- Some socket was opened, and none has called `onabort` since the last one. -/
def Shown (moves : List (Move Tab TabAction Unit)) : Prop :=
  LastSince (fun move => move.action.isOpened = true)
    (fun move => Hides move.before move.action) moves

theorem indicator_iff_of_run {urlWS : String}
    (hrun : Run (TabStep number) (Tab.fresh urlWS) moves tab) :
    tab.indicator = activeIndicator <-> Shown moves := by
  induction hrun with
  | nil =>
      apply iff_of_false _ not_lastSince_nil
      exact fun h => Bool.false_ne_true (congrArg Indicator.visible h)
  | @snoc moves tab tab' action answer hinit hlast ih =>
      have hshows := (tabStep_shows hlast).indicator
      have hhides := abort_mem_handlerCalls_iff (listens_of_run rfl hinit) hlast
      rw [hshows]
      cases hopened : action.isOpened with
      | true =>
          rw [if_pos rfl]
          exact iff_of_true rfl (lastSince_snoc_of_opened hopened)
      | false =>
          have hsnoc : Shown (moves ++ [⟨tab, action, answer, tab'⟩]) <->
              Shown moves ∧ ¬ Hides tab action :=
            lastSince_snoc_of_not_opened
              (fun h => Bool.false_ne_true (hopened.symm.trans h))
          rw [hsnoc, ← ih, ← hhides, if_neg Bool.false_ne_true]
          split
          · rename_i habort
            apply iff_of_false
            · exact fun h => Bool.false_ne_true (congrArg Indicator.visible h)
            · exact fun h => h.right habort
          · rename_i habort
            exact ⟨fun h => ⟨h, habort⟩, And.left⟩

/--
Over every run the page is shown exactly if no socket has called `onabort` since
one was last opened, and every socket has called it as often as its own story
tells.
-/
theorem connections_shown {urlWS : String}
    (hrun : Run (TabStep number) (Tab.fresh urlWS) moves tab) :
    (tab.indicator = activeIndicator <-> Shown moves) ∧
      forall (i : Nat) (socket : Socket), tab.sockets[i]? = some socket ->
        Lived moves i socket :=
  ⟨indicator_iff_of_run hrun, lived_of_run rfl hrun⟩

/-- Two connections, of which the older fails while the newer is open. -/
def olderFails : List TabAction :=
  [TabAction.init, TabAction.opened 0, TabAction.init, TabAction.opened 1,
    TabAction.closed 0 true, TabAction.message 1 ⟨5, "xds/state", none, none⟩]

theorem exists_olderFails :
    exists moves tab,
      Run (TabStep wholeNumber) (Tab.fresh "ws://target/api") moves tab ∧
        moves.map Move.action = olderFails :=
  exists_run_of_isSome (by decide +kernel)

theorem connections_shown_olderFails :
    exists moves tab,
      Run (TabStep wholeNumber) (Tab.fresh "ws://target/api") moves tab ∧
        moves.map Move.action = olderFails ∧
        (tab.indicator = activeIndicator <-> Shown moves) ∧
        forall (i : Nat) (socket : Socket), tab.sockets[i]? = some socket ->
          Lived moves i socket := by
  rcases exists_olderFails with ⟨moves, tab, hrun, hactions⟩
  exact ⟨moves, tab, hrun, hactions, connections_shown hrun⟩

end Console
end XdsService
