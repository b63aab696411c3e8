import XdsService.Console.Accounts
import XdsService.Websock.Events

/-!
# What each script does to the sockets

One lemma for every kind of step says which socket it changes and how.  The
checkpoint behind it changes none of them.
-/

namespace XdsService
namespace Console

open Foundation
open Foundation.Program
open XdsService.Graph
open Websock

variable {number : Int -> Int -> List Char}
variable {tab tab' : Tab} {socket : Socket} {page : Page} {i : Nat}
variable {answer : Unit}

/-!
## The checkpoint
-/

@[simp] theorem sockets_checkpoint (tab : Tab) :
    (tab.checkpoint number).sockets = tab.sockets :=
  (checks_checkpoint tab).sockets

@[simp] theorem token_checkpoint (tab : Tab) :
    (tab.checkpoint number).token = tab.token :=
  (checks_checkpoint tab).token

@[simp] theorem indicator_checkpoint (tab : Tab) :
    (tab.checkpoint number).indicator = tab.indicator :=
  (checks_checkpoint tab).indicator

@[simp] theorem ws_checkpoint (tab : Tab) :
    (tab.checkpoint number).ws = tab.ws := by
  unfold Tab.ws
  rw [sockets_checkpoint]

theorem final_of_tabStep {action : TabAction}
    (h : TabStep number tab action answer tab') :
    tab' = (finalState ((action.perform number).run tab)).checkpoint number := by
  cases h with
  | returned _ hrun => rw [hrun, finalState_ok]
  | thrown _ hrun => rw [hrun, finalState_error]

theorem enabled_of_tabStep {action : TabAction}
    (h : TabStep number tab action answer tab') : action.Enabled tab := by
  cases h with
  | returned henabled _ => exact henabled
  | thrown henabled _ => exact henabled

theorem not_endless_of_tabStep {action : TabAction}
    (h : TabStep number tab action answer tab') :
    Avoids JsError.endless (action.perform number) tab := by
  cases h with
  | returned _ hrun => exact avoids_of_ok hrun
  | thrown _ hrun =>
      rw [avoids_iff_of_error hrun]
      exact JsError.noConfusion

/-!
## init
-/

def Tab.withSocket (tab : Tab) (url : String) : Tab :=
  { tab with sockets := tab.sockets ++ [Socket.fresh url tab.token] }

theorem tabStep_init (h : TabStep number tab TabAction.init answer tab') :
    (socketUrl number tab.logger.urlWS tab.token = none ∧
        tab' = tab.checkpoint number) ∨
      exists url, socketUrl number tab.logger.urlWS tab.token = some url ∧
        tab' = (tab.withSocket url).checkpoint number := by
  have hfinal := final_of_tabStep h
  have hrun : (TabAction.init.perform number).run tab =
      (init number).run tab := rfl
  unfold init at hrun
  rw [EStateM.run_bind, EStateM.run_get] at hrun
  rw [hrun] at hfinal
  cases hurl : socketUrl number tab.logger.urlWS tab.token with
  | none =>
      simp only [hurl] at hfinal
      exact Or.inl ⟨rfl, hfinal⟩
  | some url =>
      simp only [hurl] at hfinal
      exact Or.inr ⟨url, rfl, hfinal⟩

/-!
## callbinder
-/

section Callbinder

variable {draws : Bool} {api verb : String} {query : Json}

theorem run_callbinder_of_ends
    (hends : Avoids JsError.endless (callbinder number draws api verb query)
      tab) (hsocket : tab.sockets[tab.ws]? = some socket) :
    exists counter,
      chooseId socket.page.pendings idCount socket.page.counter =
        some counter ∧
      (callbinder number draws api verb query).run tab =
        .ok () (tab.afterCallbinder number socket counter draws api verb
          query) := by
  cases hchosen : chooseId socket.page.pendings idCount socket.page.counter with
  | none => exact absurd (run_callbinder_of_endless hsocket hchosen) (hends _)
  | some counter =>
      exact ⟨counter, rfl, run_callbinder_of_chosen hsocket hchosen⟩

/-- The tab after a call, made by whichever button. -/
inductive Asks (number : Int -> Int -> List Char) (draws : Bool)
    (api verb : String) (query : Json) (tab : Tab) : Tab -> Prop where
  | refused : tab.sockets = [] ->
      Asks number draws api verb query tab (tab.asked number api verb query)
  | calls {socket : Socket} {counter : Nat} :
      tab.sockets[tab.ws]? = some socket ->
      chooseId socket.page.pendings idCount socket.page.counter =
        some counter ->
      Asks number draws api verb query tab
        (tab.afterCallbinder number socket counter draws api verb query)

theorem sockets_ws_eq_none_iff : tab.sockets[tab.ws]? = none <->
    tab.sockets = [] := by
  unfold Tab.ws
  rw [List.getElem?_eq_none_iff]
  cases tab.sockets with
  | nil => simp
  | cons socket rest => simp

theorem asks_of_ends
    (hends : Avoids JsError.endless (callbinder number draws api verb query)
      tab) :
    Asks number draws api verb query tab
      (finalState ((callbinder number draws api verb query).run tab)) := by
  cases hsocket : tab.sockets[tab.ws]? with
  | none =>
      rw [run_callbinder_of_no_socket hsocket]
      exact Asks.refused (sockets_ws_eq_none_iff.mp hsocket)
  | some socket =>
      rcases run_callbinder_of_ends hends hsocket with ⟨counter, hchosen, hrun⟩
      rw [hrun]
      exact Asks.calls hsocket hchosen

end Callbinder

theorem tabStep_callbinder {api verb : String} {query : Json}
    (h : TabStep number tab (TabAction.callbinder api verb query) answer
      tab') :
    exists middle, Asks number false api verb query tab middle ∧
      tab' = middle.checkpoint number :=
  ⟨_, asks_of_ends (not_endless_of_tabStep h), final_of_tabStep h⟩

theorem tabStep_graphAGLBindings
    (h : TabStep number tab TabAction.graphAGLBindings answer tab') :
    exists middle, Asks number true "xds" "list" (Json.object []) tab middle ∧
      tab' = middle.checkpoint number :=
  ⟨_, asks_of_ends (not_endless_of_tabStep h), final_of_tabStep h⟩

/-!
## A message
-/

/-- The page of a socket as a script finds it. -/
def Tab.pageOf (tab : Tab) (socket : Socket) : Page :=
  { socket.page with token := tab.token }

theorem tabStep_message {m : Message}
    (h : TabStep number tab (TabAction.message i m) answer tab') :
    exists socket, tab.sockets[i]? = some socket ∧
      socket.readyState = ReadyState.opened ∧
      tab' = (tab.afterScript number i socket.page
        (finalState ((onmessage m).run (tab.pageOf socket)))).checkpoint
          number := by
  have hfinal := final_of_tabStep h
  have henabled : tab.sockets[i]?.map Socket.readyState =
      some ReadyState.opened := enabled_of_tabStep h
  rcases Option.map_eq_some_iff.mp henabled with ⟨socket, hsocket, hopened⟩
  refine ⟨socket, hsocket, hopened, ?_⟩
  rw [hfinal]
  show Tab.checkpoint number (finalState ((onSocket number i (onmessage m)).run
    tab)) = _
  cases hrun : (onmessage m).run (tab.pageOf socket) with
  | ok _ page => rw [run_onSocket_of_ok number tab hsocket hrun]; rfl
  | error e page => rw [run_onSocket_of_error number tab hsocket hrun]; rfl

/-!
## A socket is opened
-/

def Tab.withReadyState (tab : Tab) (i : Nat) (readyState : ReadyState) : Tab :=
  { tab with
    sockets := tab.sockets.modify i fun socket =>
      { socket with readyState := readyState } }

@[simp] theorem ws_withReadyState (tab : Tab) (i : Nat)
    (readyState : ReadyState) :
    (tab.withReadyState i readyState).ws = tab.ws := by
  unfold Tab.ws Tab.withReadyState
  rw [List.length_modify]

theorem run_setReadyState (tab : Tab) (i : Nat) (readyState : ReadyState) :
    (setReadyState i readyState).run tab =
      .ok () (tab.withReadyState i readyState) := rfl

/-- The page of the socket in `ws` after `onopen`. -/
def Tab.authorizedPage (tab : Tab) (socket : Socket) (counter : Nat) : Page :=
  ((tab.pageOf socket).afterCall tab.sending "xds/auth" (Json.string "")
    counter).withHandlers "*"
      ((socket.page.awaitens.lookup "*").getD [] ++ [logEvent])

def Tab.authorized (number : Int -> Int -> List Char) (tab : Tab)
    (socket : Socket) (counter : Nat) : Tab :=
  { tab.withPage tab.ws (tab.authorizedPage socket counter) with
    logger := tab.logger.command number "xds" "auth" (Json.string "")
    waiting := tab.waiting ++
      [⟨⟨tab.ws, socket.page.promises.length⟩, false⟩]
    indicator := activeIndicator }

/-- The tab when `onopen` registers `log.event`. -/
def Tab.activated (number : Int -> Int -> List Char) (tab : Tab)
    (socket : Socket) (counter : Nat) : Tab :=
  { tab.afterCallbinder number socket counter false "xds" "auth"
      (Json.string "") with
    indicator := activeIndicator }

theorem ws_activated (number : Int -> Int -> List Char) (tab : Tab)
    (socket : Socket) (counter : Nat) :
    (tab.activated number socket counter).ws = tab.ws := by
  show (tab.sockets.modify tab.ws _).length - 1 = _
  rw [List.length_modify]
  rfl

theorem run_onopen {counter : Nat} (hsocket : tab.sockets[tab.ws]? = some socket)
    (hchosen : chooseId socket.page.pendings idCount socket.page.counter =
      some counter) :
    (onopen number).run tab =
      .ok () (tab.authorized number socket counter) := by
  have hasked : (tab.activated number socket counter).sockets[tab.ws]? =
      some { socket with
        page := (tab.pageOf socket).afterCall tab.sending "xds/auth"
          (Json.string "") counter } := by
    show (tab.sockets.modify tab.ws _)[tab.ws]? = _
    rw [List.getElem?_modify_eq, hsocket]
    rfl
  have honevent : (onevent "*" logEvent).run
      ((tab.pageOf socket).afterCall tab.sending "xds/auth" (Json.string "")
        counter) = .ok () (tab.authorizedPage socket counter) :=
    run_onevent_of_own star_notMem_objectPrototype logEvent _
  unfold onopen
  rw [run_bind_of_ok (run_callbinder_of_chosen hsocket hchosen)]
  show (onSocket number (tab.activated number socket counter).ws
    (onevent "*" logEvent)).run (tab.activated number socket counter) = _
  rw [ws_activated, run_onSocket_of_ok number
    (tab.activated number socket counter) hasked honevent]
  apply congrArg (EStateM.Result.ok ())
  refine (afterScript_of_fired rfl).trans ?_
  show ({ tab.activated number socket counter with
    sockets := (tab.sockets.modify tab.ws _).modify tab.ws _
    token := _ } : Tab) = _
  rw [List.modify_modify_eq]
  rfl

theorem tabStep_opened
    (h : TabStep number tab (TabAction.opened i) answer tab') :
    exists opened socket counter,
      opened = tab.withReadyState i ReadyState.opened ∧
      opened.sockets[opened.ws]? = some socket ∧
      chooseId socket.page.pendings idCount socket.page.counter =
        some counter ∧
      tab' = (opened.authorized number socket counter).checkpoint number := by
  have henabled : tab.sockets[i]?.map Socket.readyState =
      some ReadyState.connecting := enabled_of_tabStep h
  rcases Option.map_eq_some_iff.mp henabled with ⟨connecting, hconnecting, _⟩
  have hends := not_endless_of_tabStep h
  have hopen : Avoids JsError.endless (callbinder number false "xds" "auth"
      (Json.string "")) (tab.withReadyState i ReadyState.opened) :=
    (avoids_bind_iff.mp ((avoids_bind_iff.mp hends).right () _
      (run_setReadyState tab i ReadyState.opened))).left
  cases hsocket : (tab.withReadyState i ReadyState.opened).sockets[
      (tab.withReadyState i ReadyState.opened).ws]? with
  | none =>
      have hempty := sockets_ws_eq_none_iff.mp hsocket
      have hnone : tab.sockets = [] := List.modify_eq_nil_iff.mp hempty
      rw [hnone] at hconnecting
      cases hconnecting
  | some socket =>
      rcases run_callbinder_of_ends hopen hsocket with ⟨counter, hchosen, _⟩
      refine ⟨_, socket, counter, rfl, hsocket, hchosen, ?_⟩
      have hrun : ((TabAction.opened i).perform number).run tab =
          .ok () ((tab.withReadyState i ReadyState.opened).authorized number
            socket counter) :=
        (run_bind_of_ok (run_setReadyState tab i _)).trans
          (run_onopen hsocket hchosen)
      rw [final_of_tabStep h, hrun, finalState_ok]

/-!
## A socket is closed
-/

/-- The call of `onabort` when a connection fails, unless there was one. -/
def Socket.aborts (socket : Socket) (failed : Bool) :
    List (Nat × Option Json) :=
  if failed && socket.onabort then [(abort, none)] else []

/-- The socket after its connection was closed. -/
def Socket.afterClosed (token : Option Json) (failed : Bool) (socket : Socket) :
    Socket where
  page := Page.afterClose { socket.page with
    token := token
    fired := socket.page.fired ++ socket.aborts failed }
  readyState := ReadyState.closed
  url := socket.url
  onopen := socket.onopen && !(failed && socket.onabort)
  onabort := socket.onabort && !failed

theorem modify_congr {α : Type} {items : List α} {i : Nat} {a : α}
    {f g : α -> α} (h : items[i]? = some a) (hfg : f a = g a) :
    items.modify i f = items.modify i g := by
  apply List.ext_getElem?
  intro j
  rw [List.getElem?_modify, List.getElem?_modify]
  by_cases hj : i = j
  · subst hj
    rw [h]
    simp [hfg]
  · simp [hj]

theorem sockets_afterScript (number : Int -> Int -> List Char) (tab : Tab)
    (i : Nat) (page page' : Page) :
    (tab.afterScript number i page page').sockets =
      tab.sockets.modify i fun socket => { socket with page := page' } :=
  (handled_afterScript tab i page page').sockets

theorem token_afterScript (tab : Tab) (i : Nat) (page page' : Page) :
    (tab.afterScript number i page page').token = page'.token :=
  (handled_afterScript tab i page page').token

theorem hears_afterScript (tab : Tab) (i : Nat) (page page' : Page) :
    Hears number (Page.firedSince page page') tab
      (tab.afterScript number i page page') :=
  (hears_nil rfl rfl rfl rfl : Hears number [] tab (tab.withPage i page')).trans
    (handled_afterScript tab i page page').toHears

theorem firedSince_append {page page' : Page} {calls : List (Nat × Option Json)}
    (h : page'.fired = page.fired ++ calls) :
    Page.firedSince page page' = calls := by
  unfold Page.firedSince
  rw [h, List.drop_left]

def Socket.endCalls (socket : Socket) (failed : Bool) :
    List (Nat × Option Json) :=
  socket.aborts failed ++ socket.page.onclose.toList.map fun handler =>
    (handler, none)

structure ClosesSocket (number : Int -> Int -> List Char) (i : Nat)
    (failed : Bool) (socket : Socket) (tab middle : Tab) : Prop where
  sockets : middle.sockets =
    tab.sockets.modify i (Socket.afterClosed tab.token failed)
  token : middle.token = tab.token
  hears : Hears number (socket.endCalls failed) tab middle

def Tab.withoutHandlers (tab : Tab) (i : Nat) : Tab :=
  { tab with
    sockets := tab.sockets.modify i fun socket =>
      { socket with onopen := false, onabort := false } }

def Page.aborted (page : Page) : Page :=
  { page with fired := page.fired ++ [(abort, none)] }

theorem run_onSocket_callAbort (number : Int -> Int -> List Char)
    (hsocket : tab.sockets[i]? = some socket) :
    (onSocket number i callAbort).run tab =
      .ok () (tab.afterScript number i socket.page
        (Page.aborted (tab.pageOf socket))) :=
  run_onSocket_of_ok number tab hsocket rfl

theorem hears_abort (tab : Tab) (i : Nat) (socket : Socket) :
    Hears number [(abort, none)] tab (tab.afterScript number i socket.page
      (Page.aborted (tab.pageOf socket))) := by
  have hfired : Page.firedSince socket.page
      (Page.aborted (tab.pageOf socket)) = [(abort, none)] :=
    firedSince_append rfl
  rw [← hfired]
  exact hears_afterScript tab i _ _

theorem run_onerror_of_onabort (number : Int -> Int -> List Char)
    (hsocket : tab.sockets[i]? = some socket)
    (habort : socket.onabort = true) :
    (onerror number i).run tab =
      .ok () ((tab.withoutHandlers i).afterScript number i socket.page
        (Page.aborted (tab.pageOf socket))) := by
  have hsocket' : (tab.withoutHandlers i).sockets[i]? =
      some { socket with onopen := false, onabort := false } := by
    show (tab.sockets.modify i _)[i]? = _
    rw [List.getElem?_modify_eq, hsocket]
    rfl
  unfold onerror
  rw [EStateM.run_bind, EStateM.run_get]
  simp only [hsocket, habort, if_true]
  have hrun := run_onSocket_callAbort number hsocket'
  exact hrun

theorem run_onerror_of_not_onabort (hsocket : tab.sockets[i]? = some socket)
    (habort : socket.onabort = false) :
    (onerror number i).run tab = .ok () tab := by
  unfold onerror
  rw [EStateM.run_bind, EStateM.run_get]
  simp only [hsocket, habort]
  rfl

theorem run_onSocket_onclose (number : Int -> Int -> List Char)
    (hsocket : tab.sockets[i]? = some socket) :
    (onSocket number i onclose).run tab =
      .ok () (tab.afterScript number i socket.page
        (tab.pageOf socket).afterClose) :=
  run_onSocket_of_ok number tab hsocket (run_onclose _)

/-- What `onclose` adds to what a failure did. -/
theorem closesSocket_of_failing (failing : Tab) (failed : Bool)
    (f : Socket -> Socket) (hsocket : tab.sockets[i]? = some socket)
    (hsockets : failing.sockets = tab.sockets.modify i f)
    (htoken : failing.token = tab.token)
    (hpage : (f socket).page = { socket.page with
      token := (f socket).page.token
      fired := socket.page.fired ++ socket.aborts failed })
    (hclosed : { f socket with page := (Socket.afterClosed tab.token failed
      socket).page } = Socket.afterClosed tab.token failed socket)
    (hhears : Hears number (socket.aborts failed) tab failing) :
    ClosesSocket number i failed socket tab (failing.afterScript number i
      (f socket).page (failing.pageOf (f socket)).afterClose) := by
  have hafter : (failing.pageOf (f socket)).afterClose =
      (Socket.afterClosed tab.token failed socket).page := by
    unfold Tab.pageOf
    rw [hpage, htoken]
    rfl
  constructor
  · rw [sockets_afterScript, hsockets, List.modify_modify_eq]
    apply modify_congr hsocket
    show { f socket with page := (failing.pageOf (f socket)).afterClose } = _
    rw [hafter]
    exact hclosed
  · rw [token_afterScript]
    exact htoken
  · apply hhears.trans
    have hfired : Page.firedSince (f socket).page
        (failing.pageOf (f socket)).afterClose =
        socket.page.onclose.toList.map fun handler => (handler, none) := by
      apply firedSince_append
      show (f socket).page.fired ++ (f socket).page.onclose.toList.map _ = _
      rw [hpage]
    rw [← hfired]
    exact hears_afterScript failing i _ _

theorem socket_closed (hsocket : tab.sockets[i]? = some socket) :
    (tab.withReadyState i ReadyState.closed).sockets[i]? =
      some { socket with readyState := ReadyState.closed } := by
  show (tab.sockets.modify i _)[i]? = _
  rw [List.getElem?_modify_eq, hsocket]
  rfl

/-- The connection ends, and `onerror` is not called or finds no `onabort`. -/
theorem closesSocket_of_not_aborts (number : Int -> Int -> List Char)
    (hsocket : tab.sockets[i]? = some socket) {failed : Bool}
    (hfailed : (failed && socket.onabort) = false) :
    exists middle,
      ((TabAction.closed i failed).perform number).run tab = .ok () middle ∧
        ClosesSocket number i failed socket tab middle := by
  have hclosed := socket_closed hsocket
  have hrun : ((TabAction.closed i failed).perform number).run tab =
      (onSocket number i onclose).run
        (tab.withReadyState i ReadyState.closed) := by
    refine (run_bind_of_ok (run_setReadyState tab i ReadyState.closed)).trans ?_
    cases failed with
    | false => rfl
    | true => exact run_bind_of_ok (run_onerror_of_not_onabort hclosed hfailed)
  refine ⟨_, hrun.trans (run_onSocket_onclose number hclosed), ?_⟩
  have hnone : socket.aborts failed = [] := by
    unfold Socket.aborts
    rw [hfailed]
    rfl
  have honabort : (socket.onabort && !failed) = socket.onabort := by
    cases failed with
    | false => exact Bool.and_true _
    | true =>
        rw [show socket.onabort = false from hfailed]
        rfl
  apply closesSocket_of_failing (tab.withReadyState i ReadyState.closed)
    failed (fun socket => { socket with readyState := ReadyState.closed })
    hsocket rfl rfl
  · rw [hnone, List.append_nil]
  · unfold Socket.afterClosed
    rw [hfailed, honabort, Bool.not_false, Bool.and_true]
  · rw [hnone]
    exact hears_nil rfl rfl rfl rfl

/-- The connection fails, and `onerror` deletes and calls `onabort`. -/
theorem closesSocket_of_aborts (number : Int -> Int -> List Char)
    (hsocket : tab.sockets[i]? = some socket) (habort : socket.onabort = true) :
    exists middle,
      ((TabAction.closed i true).perform number).run tab = .ok () middle ∧
        ClosesSocket number i true socket tab middle := by
  have hfailed : (true && socket.onabort) = true := habort
  have hfails := run_onerror_of_onabort number (socket_closed hsocket) habort
  have hone : socket.aborts true = [(abort, none)] := by
    unfold Socket.aborts
    rw [hfailed]
    rfl
  have hmarked : ((tab.withReadyState i ReadyState.closed).withoutHandlers
      i).sockets = tab.sockets.modify i (fun socket => { socket with
        readyState := ReadyState.closed
        onopen := false
        onabort := false }) := List.modify_modify_eq _ _ _ _
  have hsockets := sockets_afterScript number
    ((tab.withReadyState i ReadyState.closed).withoutHandlers i) i
    socket.page (Page.aborted (tab.pageOf socket))
  rw [hmarked, List.modify_modify_eq] at hsockets
  have haborted := congrArg (fun items => items[i]?) hsockets
  simp only [List.getElem?_modify_eq, hsocket] at haborted
  have hrun : (onerror number i >>= fun _ => onSocket number i onclose).run
      (tab.withReadyState i ReadyState.closed) = _ :=
    (run_bind_of_ok hfails).trans (run_onSocket_onclose number haborted)
  refine ⟨_, (run_bind_of_ok
    (run_setReadyState tab i ReadyState.closed)).trans hrun, ?_⟩
  apply closesSocket_of_failing _ true _ hsocket hsockets
  · rw [token_afterScript]
    rfl
  · rw [hone]
    rfl
  · unfold Socket.afterClosed
    rw [hfailed, Bool.not_true, Bool.and_false, Bool.and_false]
    rfl
  · rw [hone]
    have hmark : Hears number [] tab ((tab.withReadyState i
        ReadyState.closed).withoutHandlers i) := hears_nil rfl rfl rfl rfl
    exact hmark.trans (hears_abort _ i socket)

theorem closesSocket (number : Int -> Int -> List Char)
    (hsocket : tab.sockets[i]? = some socket) (failed : Bool) :
    exists middle,
      ((TabAction.closed i failed).perform number).run tab = .ok () middle ∧
        ClosesSocket number i failed socket tab middle := by
  cases hfailed : failed && socket.onabort with
  | false => exact closesSocket_of_not_aborts number hsocket hfailed
  | true =>
      rcases Bool.and_eq_true_iff.mp hfailed with ⟨rfl, habort⟩
      exact closesSocket_of_aborts number hsocket habort

theorem tabStep_closed {failed : Bool}
    (h : TabStep number tab (TabAction.closed i failed) answer tab') :
    exists socket middle, tab.sockets[i]? = some socket ∧
      socket.readyState ≠ ReadyState.closed ∧
      ClosesSocket number i failed socket tab middle ∧
      tab' = middle.checkpoint number := by
  have henabled : exists socket, tab.sockets[i]? = some socket ∧
      socket.readyState ≠ ReadyState.closed := enabled_of_tabStep h
  rcases henabled with ⟨socket, hsocket, hopen⟩
  rcases closesSocket number hsocket failed with ⟨middle, hrun, hcloses⟩
  refine ⟨socket, middle, hsocket, hopen, hcloses, ?_⟩
  rw [final_of_tabStep h, hrun, finalState_ok]

/-!
## The method close
-/

/-- What becomes of the sockets when the method close of one is called. -/
structure CallsClose (number : Int -> Int -> List Char) (i : Nat)
    (socket : Socket) (tab middle : Tab) : Prop where
  sockets : middle.sockets = tab.sockets.modify i fun other => { other with
    readyState := socket.readyState.close
    page := if socket.onabort then Page.aborted (tab.pageOf socket)
      else socket.page }
  token : middle.token = tab.token
  hears : Hears number (if socket.onabort then [(abort, none)] else []) tab
    middle

theorem tabStep_close
    (h : TabStep number tab (TabAction.close i) answer tab') :
    exists socket middle, tab.sockets[i]? = some socket ∧
      CallsClose number i socket tab middle ∧
      tab' = middle.checkpoint number := by
  have henabled : i < tab.sockets.length := enabled_of_tabStep h
  have hfinal := final_of_tabStep h
  have hperform : ((TabAction.close i).perform number).run tab =
      (close number i).run tab := rfl
  rw [hperform] at hfinal
  unfold close at hfinal
  rw [EStateM.run_bind, EStateM.run_get] at hfinal
  cases hsocket : tab.sockets[i]? with
  | none =>
      exact absurd henabled (Nat.not_lt.mpr (List.getElem?_eq_none_iff.mp hsocket))
  | some socket =>
      simp only [hsocket] at hfinal
      rw [run_bind_of_ok (run_setReadyState tab i _)] at hfinal
      have hclosing : (tab.withReadyState i socket.readyState.close).sockets[i]? =
          some { socket with readyState := socket.readyState.close } := by
        show (tab.sockets.modify i _)[i]? = _
        rw [List.getElem?_modify_eq, hsocket]
        rfl
      have hsame : Hears number [] tab
          (tab.withReadyState i socket.readyState.close) :=
        hears_nil rfl rfl rfl rfl
      cases habort : socket.onabort with
      | true =>
          simp only [habort, if_true] at hfinal
          rw [run_onSocket_callAbort number hclosing, finalState_ok] at hfinal
          refine ⟨socket, _, rfl, ⟨?_, ?_, ?_⟩, hfinal⟩
          · rw [sockets_afterScript]
            refine (List.modify_modify_eq _ _ i tab.sockets).trans ?_
            apply modify_congr hsocket
            rw [if_pos habort]
            rfl
          · rw [token_afterScript]
            rfl
          · rw [habort]
            exact hsame.trans (hears_abort _ i
              { socket with readyState := socket.readyState.close })
      | false =>
          simp only [habort] at hfinal
          refine ⟨socket, tab.withReadyState i socket.readyState.close, rfl,
            ⟨?_, rfl, ?_⟩, hfinal⟩
          · apply modify_congr hsocket
            rw [habort]
            rfl
          · rw [habort]
            exact hsame

end Console
end XdsService
