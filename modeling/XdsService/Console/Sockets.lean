import XdsService.Console.Steps

/-!
# One socket through a run

Of a step, one socket sees little: most steps pass it by.  What holds of a fresh
socket and survives each of the few ways in which a step can change it holds of
every socket of every run.
-/

namespace XdsService
namespace Console

open Foundation
open Foundation.Program
open XdsService.Graph
open Websock

variable {number : Int -> Int -> List Char}
variable {tab tab' : Tab} {socket : Socket} {page page' : Page} {i : Nat}
variable {answer : Unit}

/-!
## One socket
-/

/-- The method and the request of a call made by a button. -/
def TabAction.asks? : TabAction -> Option (String × Json)
  | callbinder api verb query => some (api ++ "/" ++ verb, query)
  | graphAGLBindings => some ("xds" ++ "/" ++ "list", Json.object [])
  | _ => none

/-- The action changes the socket, whose number is `j`. -/
def TabAction.Touches (tab : Tab) (j : Nat) : TabAction -> Prop
  | init => False
  | callbinder _ _ _ => j = tab.ws
  | graphAGLBindings => j = tab.ws
  | close i => j = i
  | opened i => j = i ∨ j = tab.ws
  | message i _ => j = i
  | closed i _ => j = i

/-- What a step does to one socket. -/
inductive SocketStep (tab : Tab) (j : Nat) (socket : Socket) :
    TabAction -> Socket -> Prop where
  | idle {action : TabAction} :
      ¬ action.Touches tab j ->
      SocketStep tab j socket action socket
  | calls {action : TabAction} {method : String} {query : Json}
      {counter : Nat} :
      action.asks? = some (method, query) ->
      j = tab.ws ->
      chooseId socket.page.pendings idCount socket.page.counter =
        some counter ->
      SocketStep tab j socket action { socket with
        page := (tab.pageOf socket).afterCall tab.sending method query counter }
  | opens :
      j ≠ tab.ws ->
      SocketStep tab j socket (TabAction.opened j)
        { socket with readyState := ReadyState.opened }
  | authorizes {i counter : Nat} :
      j = tab.ws ->
      chooseId socket.page.pendings idCount socket.page.counter =
        some counter ->
      SocketStep tab j socket (TabAction.opened i) { socket with
        readyState := if i = j then ReadyState.opened else socket.readyState
        page := (tab.withReadyState i ReadyState.opened).authorizedPage socket
          counter }
  | receives {m : Message} :
      SocketStep tab j socket (TabAction.message j m) { socket with
        page := finalState ((onmessage m).run (tab.pageOf socket)) }
  | ends {failed : Bool} :
      SocketStep tab j socket (TabAction.closed j failed)
        (socket.afterClosed tab.token failed)
  | closes :
      SocketStep tab j socket (TabAction.close j) { socket with
        readyState := socket.readyState.close
        page := if socket.onabort then Page.aborted (tab.pageOf socket)
          else socket.page }

theorem getElem?_modify_of_eq {α : Type} {items : List α} {j : Nat} {a : α}
    (f : α -> α) (h : items[j]? = some a) :
    (items.modify j f)[j]? = some (f a) := by
  rw [List.getElem?_modify_eq, h]
  rfl

theorem socketStep_asks {action : TabAction} {draws : Bool}
    {api verb : String} {query : Json} {middle : Tab} {j : Nat}
    (hasks : Asks number draws api verb query tab middle)
    (haction : action.asks? = some (api ++ "/" ++ verb, query))
    (htouches : action.Touches tab j <-> j = tab.ws)
    (hsocket : tab.sockets[j]? = some socket) :
    exists socket', middle.sockets[j]? = some socket' ∧
      SocketStep tab j socket action socket' := by
  cases hasks with
  | refused hnone =>
      rw [hnone] at hsocket
      cases hsocket
  | calls hws hchosen =>
      by_cases hj : j = tab.ws
      · rw [hj, hws] at hsocket
        cases hsocket
        refine ⟨_, ?_, SocketStep.calls haction hj hchosen⟩
        rw [hj]
        exact getElem?_modify_of_eq _ hws
      · refine ⟨socket, ?_, SocketStep.idle fun h => hj (htouches.mp h)⟩
        show (tab.sockets.modify tab.ws _)[j]? = _
        rw [List.getElem?_modify_ne _ _ (Ne.symm hj)]
        exact hsocket

theorem socketStep_modify {action : TabAction} {f : Socket -> Socket}
    {i j : Nat} {touched : Socket} (hsocket : tab.sockets[j]? = some socket)
    (htouched : tab.sockets[i]? = some touched)
    (htouches : action.Touches tab j <-> j = i)
    (hstep : SocketStep tab i touched action (f touched)) :
    exists socket', (tab.sockets.modify i f)[j]? = some socket' ∧
      SocketStep tab j socket action socket' := by
  by_cases hj : j = i
  · subst hj
    rw [hsocket] at htouched
    cases htouched
    exact ⟨_, getElem?_modify_of_eq f hsocket, hstep⟩
  · refine ⟨socket, ?_, SocketStep.idle fun h => hj (htouches.mp h)⟩
    rw [List.getElem?_modify_ne _ _ (Ne.symm hj)]
    exact hsocket

theorem socketStep_opened {i j counter : Nat} {last : Socket}
    (hsocket : tab.sockets[j]? = some socket)
    (hlast : (tab.withReadyState i ReadyState.opened).sockets[
      (tab.withReadyState i ReadyState.opened).ws]? = some last)
    (hchosen : chooseId last.page.pendings idCount last.page.counter =
      some counter) :
    exists socket', ((tab.withReadyState i ReadyState.opened).authorized number
        last counter).sockets[j]? = some socket' ∧
      SocketStep tab j socket (TabAction.opened i) socket' := by
  have hmarked : (tab.withReadyState i ReadyState.opened).sockets[j]? =
      some { socket with
        readyState := if i = j then ReadyState.opened
          else socket.readyState } := by
    show (tab.sockets.modify i _)[j]? = _
    rw [List.getElem?_modify, hsocket]
    by_cases hi : i = j
    · simp [hi]
    · simp [hi]
  rw [ws_withReadyState] at hlast
  have hafter : ((tab.withReadyState i ReadyState.opened).authorized number
      last counter).sockets =
      (tab.withReadyState i ReadyState.opened).sockets.modify tab.ws
        fun other => { other with
          page := (tab.withReadyState i ReadyState.opened).authorizedPage last
            counter } := by
    show List.modify _ (tab.withReadyState i ReadyState.opened).ws _ = _
    rw [ws_withReadyState]
  rw [hafter]
  by_cases hj : j = tab.ws
  · subst hj
    rw [hmarked] at hlast
    cases hlast
    exact ⟨_, getElem?_modify_of_eq _ hmarked,
      SocketStep.authorizes rfl hchosen⟩
  · rw [List.getElem?_modify_ne _ _ (Ne.symm hj), hmarked]
    by_cases hi : i = j
    · subst hi
      rw [if_pos rfl]
      exact ⟨_, rfl, SocketStep.opens hj⟩
    · rw [if_neg hi]
      exact ⟨_, rfl, SocketStep.idle fun h => h.elim (Ne.symm hi) hj⟩

theorem tabStep_socket {action : TabAction} {j : Nat}
    (h : TabStep number tab action answer tab')
    (hsocket : tab.sockets[j]? = some socket) :
    exists socket', tab'.sockets[j]? = some socket' ∧
      SocketStep tab j socket action socket' := by
  cases action with
  | init =>
      refine ⟨socket, ?_, SocketStep.idle id⟩
      rcases tabStep_init h with ⟨_, rfl⟩ | ⟨url, _, rfl⟩
      · rw [sockets_checkpoint]
        exact hsocket
      · rw [sockets_checkpoint]
        exact (List.getElem?_append_left
          (List.getElem?_eq_some_iff.mp hsocket).1).trans hsocket
  | callbinder api verb query =>
      rcases tabStep_callbinder h with ⟨middle, hasks, rfl⟩
      rw [sockets_checkpoint]
      exact socketStep_asks hasks rfl Iff.rfl hsocket
  | graphAGLBindings =>
      rcases tabStep_graphAGLBindings h with ⟨middle, hasks, rfl⟩
      rw [sockets_checkpoint]
      exact socketStep_asks hasks rfl Iff.rfl hsocket
  | close i =>
      rcases tabStep_close h with ⟨touched, middle, htouched, hcloses, rfl⟩
      rw [sockets_checkpoint, hcloses.sockets]
      exact socketStep_modify hsocket htouched Iff.rfl SocketStep.closes
  | opened i =>
      rcases tabStep_opened h with
        ⟨_, last, counter, rfl, hlast, hchosen, rfl⟩
      rw [sockets_checkpoint]
      exact socketStep_opened hsocket hlast hchosen
  | message i m =>
      rcases tabStep_message h with ⟨touched, htouched, _, rfl⟩
      rw [sockets_checkpoint, sockets_afterScript]
      exact socketStep_modify hsocket htouched Iff.rfl SocketStep.receives
  | closed i failed =>
      rcases tabStep_closed h with ⟨touched, middle, htouched, _, hcloses, rfl⟩
      rw [sockets_checkpoint, hcloses.sockets]
      exact socketStep_modify hsocket htouched Iff.rfl SocketStep.ends

theorem length_asks {draws : Bool} {api verb : String} {query : Json}
    {middle : Tab} (h : Asks number draws api verb query tab middle) :
    middle.sockets.length = tab.sockets.length := by
  cases h with
  | refused _ => rfl
  | calls _ _ => exact List.length_modify _ _ _

theorem length_of_tabStep {action : TabAction}
    (h : TabStep number tab action answer tab')
    (hinit : action ≠ TabAction.init) :
    tab'.sockets.length = tab.sockets.length := by
  cases action with
  | init => exact absurd rfl hinit
  | callbinder api verb query =>
      rcases tabStep_callbinder h with ⟨middle, hasks, rfl⟩
      rw [sockets_checkpoint]
      exact length_asks hasks
  | graphAGLBindings =>
      rcases tabStep_graphAGLBindings h with ⟨middle, hasks, rfl⟩
      rw [sockets_checkpoint]
      exact length_asks hasks
  | close i =>
      rcases tabStep_close h with ⟨touched, middle, _, hcloses, rfl⟩
      rw [sockets_checkpoint, hcloses.sockets, List.length_modify]
  | opened i =>
      rcases tabStep_opened h with ⟨_, last, counter, rfl, _, _, rfl⟩
      rw [sockets_checkpoint]
      show (List.modify (List.modify tab.sockets i _) _ _).length = _
      rw [List.length_modify, List.length_modify]
  | message i m =>
      rcases tabStep_message h with ⟨touched, _, _, rfl⟩
      rw [sockets_checkpoint, sockets_afterScript, List.length_modify]
  | closed i failed =>
      rcases tabStep_closed h with ⟨touched, middle, _, _, hcloses, rfl⟩
      rw [sockets_checkpoint, hcloses.sockets, List.length_modify]

theorem socket_of_tabStep {action : TabAction} {j : Nat} {socket' : Socket}
    (h : TabStep number tab action answer tab')
    (hsocket' : tab'.sockets[j]? = some socket') :
    (exists socket, tab.sockets[j]? = some socket ∧
        SocketStep tab j socket action socket') ∨
      (action = TabAction.init ∧ j = tab.sockets.length ∧
        exists url, socketUrl number tab.logger.urlWS tab.token = some url ∧
          socket' = Socket.fresh url tab.token) := by
  cases hsocket : tab.sockets[j]? with
  | some socket =>
      left
      rcases tabStep_socket h hsocket with ⟨other, hother, hstep⟩
      rw [hsocket'] at hother
      cases hother
      exact ⟨socket, rfl, hstep⟩
  | none =>
      right
      have hlen := List.getElem?_eq_none_iff.mp hsocket
      have hlt := (List.getElem?_eq_some_iff.mp hsocket').1
      by_cases hinit : action = TabAction.init
      · subst hinit
        rcases tabStep_init h with ⟨_, rfl⟩ | ⟨url, hurl, rfl⟩
        · rw [sockets_checkpoint] at hlt
          exact absurd hlt (Nat.not_lt.mpr hlen)
        · rw [sockets_checkpoint] at hsocket'
          have hfresh : (tab.sockets ++ [Socket.fresh url tab.token])[j]? =
              some socket' := hsocket'
          rcases getElem?_concat_cases hfresh with hold | ⟨rfl, rfl⟩
          · rw [hsocket] at hold
            cases hold
          · exact ⟨rfl, rfl, url, hurl, rfl⟩
      · rw [length_of_tabStep h hinit] at hlt
        exact absurd hlt (Nat.not_lt.mpr hlen)

def TabAction.about? : TabAction -> Option Nat
  | close i => some i
  | opened i => some i
  | message i _ => some i
  | closed i _ => some i
  | _ => none

theorem lt_of_about {action : TabAction} (henabled : action.Enabled tab)
    (habout : action.about? = some i) : i < tab.sockets.length := by
  cases action with
  | close j =>
      cases habout
      exact henabled
  | opened j =>
      cases habout
      rcases Option.map_eq_some_iff.mp henabled with ⟨socket, hsocket, _⟩
      exact (List.getElem?_eq_some_iff.mp hsocket).1
  | message j m =>
      cases habout
      rcases Option.map_eq_some_iff.mp henabled with ⟨socket, hsocket, _⟩
      exact (List.getElem?_eq_some_iff.mp hsocket).1
  | closed j failed =>
      cases habout
      rcases henabled with ⟨socket, hsocket, _⟩
      exact (List.getElem?_eq_some_iff.mp hsocket).1
  | _ => cases habout

theorem length_le_of_tabStep {action : TabAction}
    (h : TabStep number tab action answer tab') :
    tab.sockets.length ≤ tab'.sockets.length := by
  by_cases hinit : action = TabAction.init
  · subst hinit
    rcases tabStep_init h with ⟨_, rfl⟩ | ⟨url, _, rfl⟩
    · rw [sockets_checkpoint]
    · rw [sockets_checkpoint]
      show _ ≤ (tab.sockets ++ [_]).length
      rw [List.length_append]
      exact Nat.le_add_right _ _
  · exact Nat.le_of_eq (length_of_tabStep h hinit).symm

/-!
## Every socket of a run
-/

/-- No action of a run is about a socket that is not made yet. -/
theorem not_about_later {start : Tab}
    {moves : List (Move Tab TabAction Unit)}
    (hrun : Run (TabStep number) start moves tab) :
    forall move, move ∈ moves -> forall j, tab.sockets.length ≤ j ->
      move.action.about? ≠ some j := by
  induction hrun with
  | nil =>
      intro move hmem
      cases hmem
  | snoc _ hlast ih =>
      intro move hmem j hj habout
      have hbefore := Nat.le_trans (length_le_of_tabStep hlast) hj
      rcases List.mem_append.mp hmem with hmem | hmem
      · exact ih move hmem j hbefore habout
      · rw [List.mem_singleton.mp hmem] at habout
        have hlt := lt_of_about (enabled_of_tabStep hlast) habout
        exact Nat.not_le.mpr hlt hbefore

/--
What holds of a fresh socket and survives every step to it holds of all sockets
of a run, whatever the steps before it were.
-/
theorem forall_sockets
    {I : List (Move Tab TabAction Unit) -> Nat -> Socket -> Prop}
    {start : Tab} {moves : List (Move Tab TabAction Unit)}
    (hstart : start.sockets = [])
    (hfresh : forall (moves : List (Move Tab TabAction Unit))
      (move : Move Tab TabAction Unit) (url : String),
      Run (TabStep number) start moves move.before ->
        TabStep number move.before move.action move.answer move.after ->
        move.action = TabAction.init ->
        socketUrl number move.before.logger.urlWS move.before.token =
          some url ->
        I (moves ++ [move]) move.before.sockets.length
          (Socket.fresh url move.before.token))
    (hstep : forall (moves : List (Move Tab TabAction Unit))
      (move : Move Tab TabAction Unit) (j : Nat) (socket socket' : Socket),
      Run (TabStep number) start moves move.before ->
        TabStep number move.before move.action move.answer move.after ->
        move.before.sockets[j]? = some socket ->
        I moves j socket ->
        SocketStep move.before j socket move.action socket' ->
        I (moves ++ [move]) j socket')
    (hrun : Run (TabStep number) start moves tab) :
    forall (j : Nat) (socket : Socket), tab.sockets[j]? = some socket ->
      I moves j socket := by
  induction hrun with
  | nil =>
      intro j socket hsocket
      rw [hstart] at hsocket
      cases hsocket
  | snoc hinit hlast ih =>
      intro j socket' hsocket'
      rcases socket_of_tabStep hlast hsocket' with
        ⟨socket, hsocket, hsteps⟩ | ⟨hinit', rfl, url, hurl, rfl⟩
      · exact hstep _ ⟨_, _, _, _⟩ j socket socket' hinit hlast hsocket
          (ih j socket hsocket) hsteps
      · exact hfresh _ ⟨_, _, _, _⟩ url hinit hlast hinit' hurl

/-!
## What a message leaves alone
-/

/-- Neither the handlers nor what was sent changed. -/
structure KeepsObject (page page' : Page) : Prop where
  awaitens : page'.awaitens = page.awaitens
  onclose : page'.onclose = page.onclose
  sent : page'.sent = page.sent

/-- Besides, no handler was called, and the token is the same. -/
structure Silent (page page' : Page) : Prop extends KeepsObject page page' where
  fired : page'.fired = page.fired
  token : page'.token = page.token

instance : Std.Refl Silent := ⟨fun _ => ⟨⟨rfl, rfl, rfl⟩, rfl, rfl⟩⟩

theorem silent_reply (id : String) (ans : Option Json) (offset : Nat) :
    Moves Silent AnyExit (reply id ans offset) := by
  apply moves_get_bind
  · intro page
    by_cases hin : page.pendings.inObject id = true
    · simp only [hin, if_true]
      cases page.pendings.lookup id with
      | none => exact Std.Refl.refl page
      | some entry =>
          cases hf : elementNamed entry (indexName offset) with
          | none =>
              simp only [hf]
              exact ⟨⟨rfl, rfl, rfl⟩, rfl, rfl⟩
          | some f =>
              simp only [hf]
              exact ⟨⟨rfl, rfl, rfl⟩, rfl, rfl⟩
    · simp only [hin]
      exact Std.Refl.refl page
  · exact fun _ _ _ _ => trivial

def tokenAfter (token tok : Option Json) : Option Json :=
  if truthy tok then tok else token

theorem run_setToken_eq (tok : Option Json) (page : Page) :
    (setToken tok).run page =
      .ok () { page with token := tokenAfter page.token tok } := by
  unfold tokenAfter
  show EStateM.Result.ok () (if _ then _ else _) = _
  split
  · rfl
  · rfl

/-- What a message leaves alone, and the token that it leaves. -/
structure Receives (m : Message) (page page' : Page) : Prop extends
    KeepsObject page page' where
  token : page'.token = tokenAfter page.token m.token

theorem receives_onmessage (m : Message) (page : Page) :
    Receives m page (finalState ((onmessage m).run page)) := by
  by_cases hreply : m.IsReply
  · have hsilent := (silent_reply m.id m.ans
      (if m.code = retok then 0 else 1)).along
        { page with token := tokenAfter page.token m.token }
    rw [run_onmessage_of_reply hreply, run_setToken_eq]
    exact ⟨⟨hsilent.awaitens, hsilent.onclose, hsilent.sent⟩, hsilent.token⟩
  · have hfires := (firesOnly_fire m.id m.ans).along
      { page with token := tokenAfter page.token m.token }
    rw [onmessage_of_event hreply, run_bind_of_ok (run_setToken_eq _ _), hfires]
    exact ⟨⟨rfl, rfl, rfl⟩, rfl⟩

theorem fired_onmessage_of_reply {m : Message} (h : m.IsReply) (page : Page) :
    (finalState ((onmessage m).run page)).fired = page.fired := by
  rw [run_onmessage_of_reply h, run_setToken_eq]
  exact ((silent_reply m.id m.ans _).along _).fired

/-!
## Handlers that a step calls
-/

def Tab.callsAt (tab : Tab) (i : Nat)
    (calls : Socket -> List (Nat × Option Json)) : List (Nat × Option Json) :=
  match tab.sockets[i]? with
  | none => []
  | some socket => calls socket

theorem callsAt_of_some (hsocket : tab.sockets[i]? = some socket)
    (calls : Socket -> List (Nat × Option Json)) :
    tab.callsAt i calls = calls socket := by
  unfold Tab.callsAt
  rw [hsocket]

/-- The calls of handlers, with their arguments, that an action leads to. -/
def TabAction.handlerCalls (tab : Tab) :
    TabAction -> List (Nat × Option Json)
  | message i m => tab.callsAt i fun socket =>
      Page.firedSince socket.page
        (finalState ((onmessage m).run (tab.pageOf socket)))
  | closed i failed => tab.callsAt i fun socket => socket.endCalls failed
  | close i => tab.callsAt i fun socket =>
      if socket.onabort then [(abort, none)] else []
  | _ => []

def TabAction.isOpened : TabAction -> Bool
  | opened _ => true
  | _ => false

/-- What a step makes of the log and of the indicator. -/
structure StepShows (number : Int -> Int -> List Char) (tab : Tab)
    (action : TabAction) (tab' : Tab) : Prop where
  writes : exists answers, Writes number answers
    ((action.handlerCalls tab).filterMap loggedEvent) tab.logger tab'.logger
  indicator : tab'.indicator =
    if action.isOpened then activeIndicator
    else if abort ∈ (action.handlerCalls tab).map Prod.fst then closedIndicator
    else tab.indicator

theorem stepShows_checkpoint {action : TabAction} {middle : Tab}
    (hwrites : Writes number [] ((action.handlerCalls tab).filterMap loggedEvent)
      tab.logger middle.logger)
    (hindicator : middle.indicator =
      if action.isOpened then activeIndicator
      else if abort ∈ (action.handlerCalls tab).map Prod.fst then
        closedIndicator
      else tab.indicator) :
    StepShows number tab action (middle.checkpoint number) where
  writes := by
    have hall := hwrites.trans (checks_checkpoint middle).writes
    rw [List.append_nil] at hall
    exact ⟨_, hall⟩
  indicator := by
    rw [indicator_checkpoint]
    exact hindicator

theorem Hears.stepShows {action : TabAction} {middle : Tab}
    {calls : List (Nat × Option Json)} (h : Hears number calls tab middle)
    (hcalls : action.handlerCalls tab = calls)
    (haction : action.isOpened = false) :
    StepShows number tab action (middle.checkpoint number) := by
  subst hcalls
  apply stepShows_checkpoint h.writes
  rw [h.indicator, haction]
  rfl

theorem stepShows_asks {action : TabAction} {draws : Bool} {api verb : String}
    {query : Json} {middle : Tab}
    (h : Asks number draws api verb query tab middle)
    (hcalls : action.handlerCalls tab = [])
    (haction : action.isOpened = false) :
    StepShows number tab action (middle.checkpoint number) := by
  have hindicator : middle.indicator = tab.indicator := by
    cases h with
    | refused _ => rfl
    | calls _ _ => rfl
  apply stepShows_checkpoint
  · rw [hcalls]
    cases h with
    | refused _ => exact writes_command tab.logger api verb query
    | calls _ _ => exact writes_command tab.logger api verb query
  · rw [hindicator, hcalls, haction]
    rfl

theorem tabStep_shows {action : TabAction}
    (h : TabStep number tab action answer tab') :
    StepShows number tab action tab' := by
  cases action with
  | init =>
      rcases tabStep_init h with ⟨_, rfl⟩ | ⟨url, _, rfl⟩
      · have hsame : Hears number [] tab tab := hears_nil rfl rfl rfl rfl
        exact hsame.stepShows rfl rfl
      · have hsame : Hears number [] tab (tab.withSocket url) :=
          hears_nil rfl rfl rfl rfl
        exact hsame.stepShows rfl rfl
  | callbinder api verb query =>
      rcases tabStep_callbinder h with ⟨middle, hasks, rfl⟩
      exact stepShows_asks hasks rfl rfl
  | graphAGLBindings =>
      rcases tabStep_graphAGLBindings h with ⟨middle, hasks, rfl⟩
      exact stepShows_asks hasks rfl rfl
  | close i =>
      rcases tabStep_close h with ⟨socket, middle, hsocket, hcloses, rfl⟩
      exact hcloses.hears.stepShows (callsAt_of_some hsocket _) rfl
  | opened i =>
      rcases tabStep_opened h with ⟨_, last, counter, rfl, _, _, rfl⟩
      apply stepShows_checkpoint
      · exact writes_command tab.logger "xds" "auth" (Json.string "")
      · rfl
  | message i m =>
      rcases tabStep_message h with ⟨socket, hsocket, _, rfl⟩
      exact (hears_afterScript tab i _ _).stepShows
        (callsAt_of_some hsocket _) rfl
  | closed i failed =>
      rcases tabStep_closed h with ⟨socket, middle, hsocket, _, hcloses, rfl⟩
      exact hcloses.hears.stepShows (callsAt_of_some hsocket _) rfl

end Console
end XdsService
