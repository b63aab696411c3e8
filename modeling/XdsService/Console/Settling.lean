import XdsService.Console.Sockets

/-!
# One call at a time

A step makes or settles one call at most: a button makes one, a message
settles the one that it answers, and all other steps leave the promises as they
are.  So the moves of a run settle the calls in an order.
-/

namespace XdsService
namespace Console

open Foundation
open Foundation.Program
open Websock

variable {number : Int -> Int -> List Char}
variable {tab tab' tab'' : Tab} {socket : Socket} {page page' : Page}
variable {answer : Unit} {ticket : Ticket} {i : Nat}
variable {moves : List (Move Tab TabAction Unit)}
variable {move : Move Tab TabAction Unit}

def Tab.Settled (tab : Tab) (ticket : Ticket) : Prop :=
  exists state, tab.stateAt ticket = some state ∧ isPending state = false

def Makes (ticket : Ticket) (move : Move Tab TabAction Unit) : Prop :=
  move.before.stateAt ticket = none ∧
    (move.after.stateAt ticket).isSome = true

/-- The move settles the promise of the call. -/
def Settles (ticket : Ticket) (move : Move Tab TabAction Unit) : Prop :=
  ¬ move.before.Settled ticket ∧ move.after.Settled ticket

/-!
## Promises of one page
-/

def ChangesOne (page page' : Page) : Prop :=
  exists changed : Nat, forall promise : Nat, promise ≠ changed ->
    page'.promises[promise]? = page.promises[promise]?

theorem changesOne_of_same (h : page'.promises = page.promises) :
    ChangesOne page page' := by
  refine ⟨0, ?_⟩
  intro promise _
  rw [h]

theorem changesOne_invoke (page : Page) (f : Callback) (ans : Option Json) :
    ChangesOne page (page.invoke f ans) := by
  refine ⟨f.promise, ?_⟩
  intro promise hne
  exact List.getElem?_modify_ne _ _ (Ne.symm hne)

theorem changesOne_reply (id : String) (ans : Option Json) (offset : Nat) :
    Moves ChangesOne AnyExit (reply id ans offset) := by
  apply moves_get_bind
  · intro page
    by_cases hin : page.pendings.inObject id = true
    · simp only [hin, if_true]
      cases page.pendings.lookup id with
      | none => exact changesOne_of_same rfl
      | some entry =>
          cases hf : elementNamed entry (indexName offset) with
          | none =>
              simp only [hf]
              exact changesOne_of_same rfl
          | some f =>
              simp only [hf]
              rcases changesOne_invoke { page with
                pendings := page.pendings.erase id } f ans with
                ⟨changed, hother⟩
              exact ⟨changed, hother⟩
    · simp only [hin]
      exact changesOne_of_same rfl
  · exact fun _ _ _ _ => trivial

theorem changesOne_onmessage (m : Message) (page : Page) :
    ChangesOne page (finalState ((onmessage m).run page)) := by
  by_cases hreply : m.IsReply
  · have hsame := (sameCalls_setToken m.token).along page
    rw [run_onmessage_of_reply hreply]
    rcases (changesOne_reply m.id m.ans _).along
      (finalState ((setToken m.token).run page)) with ⟨changed, hother⟩
    refine ⟨changed, ?_⟩
    intro promise hne
    rw [hother promise hne, hsame.promises]
  · rw [onmessage_of_event hreply]
    have hsame := (moves_bind (sameCalls_setToken m.token)
      fun _ => sameCalls_fire m.id m.ans).along page
    exact changesOne_of_same hsame.promises

/-!
## Promises of the tab
-/

/-- All calls but one are what they were. -/
def OneCall (tab tab' : Tab) : Prop :=
  exists changed : Ticket, forall ticket : Ticket, ticket ≠ changed ->
    tab'.stateAt ticket = tab.stateAt ticket

theorem oneCall_of_same
    (h : forall ticket, tab'.stateAt ticket = tab.stateAt ticket) :
    OneCall tab tab' :=
  ⟨⟨0, 0⟩, fun ticket _ => h ticket⟩

theorem OneCall.congr (h : OneCall tab tab')
    (hsockets : tab''.sockets = tab'.sockets) : OneCall tab tab'' := by
  rcases h with ⟨changed, hother⟩
  refine ⟨changed, ?_⟩
  intro ticket hne
  rw [stateAt_congr hsockets]
  exact hother ticket hne

theorem oneCall_withPage (hsocket : tab.sockets[i]? = some socket)
    (h : ChangesOne socket.page page') :
    OneCall tab (tab.withPage i page') := by
  rcases h with ⟨changed, hother⟩
  refine ⟨⟨i, changed⟩, ?_⟩
  intro ticket hne
  rw [stateAt_withPage hsocket]
  split
  · rename_i hticket
    rw [stateAt_of_socket hsocket hticket]
    apply hother
    rintro rfl
    exact hne (congrArg (fun j => (⟨j, ticket.promise⟩ : Ticket)) hticket)
  · rfl

/-- Something about a socket changed, but none of its promises. -/
theorem stateAt_of_modify {f : Socket -> Socket}
    (hsocket : tab.sockets[i]? = some socket)
    (hf : (f socket).page.promises = socket.page.promises)
    (hsockets : tab'.sockets = tab.sockets.modify i f) (ticket : Ticket) :
    tab'.stateAt ticket = tab.stateAt ticket := by
  unfold Tab.stateAt
  rw [hsockets, List.getElem?_modify]
  by_cases hi : i = ticket.socket
  · subst hi
    rw [hsocket]
    simp [hf]
  · simp [hi]

theorem oneCall_afterCallbinder {counter : Nat} {draws : Bool}
    {api verb : String} {query : Json}
    (hsocket : tab.sockets[tab.ws]? = some socket) :
    OneCall tab
      (tab.afterCallbinder number socket counter draws api verb query) := by
  refine ⟨⟨tab.ws, socket.page.promises.length⟩, ?_⟩
  intro ticket hne
  rw [stateAt_afterCallbinder hsocket, if_neg hne]

theorem oneCall_asks {draws : Bool} {api verb : String} {query : Json}
    (h : Asks number draws api verb query tab tab') : OneCall tab tab' := by
  cases h with
  | refused _ => exact oneCall_of_same fun _ => rfl
  | calls hsocket _ => exact oneCall_afterCallbinder hsocket

theorem stateAt_withSocket (tab : Tab) (url : String) (ticket : Ticket) :
    (tab.withSocket url).stateAt ticket = tab.stateAt ticket := by
  show (tab.sockets ++ [Socket.fresh url tab.token])[ticket.socket]?.bind _ =
    tab.sockets[ticket.socket]?.bind _
  rw [getElem?_concat]
  split
  · rename_i hlast
    rw [hlast, List.getElem?_eq_none (Nat.le_refl _)]
    rfl
  · rfl

theorem oneCall_authorized (number : Int -> Int -> List Char)
    {counter : Nat}
    (hsocket : tab.sockets[tab.ws]? = some socket) :
    OneCall tab (tab.authorized number socket counter) := by
  have hpage : OneCall tab (tab.withPage tab.ws
      (tab.authorizedPage socket counter)) := by
    apply oneCall_withPage hsocket
    refine ⟨socket.page.promises.length, ?_⟩
    intro promise hne
    refine (getElem?_concat socket.page.promises
      (callPromise tab.sending) promise).trans ?_
    rw [if_neg hne]
  exact hpage.congr rfl

theorem oneCall_of_tabStep {action : TabAction}
    (h : TabStep number tab action answer tab') : OneCall tab tab' := by
  cases action with
  | init =>
      rcases tabStep_init h with ⟨_, rfl⟩ | ⟨url, _, rfl⟩
      · exact oneCall_of_same (stateAt_congr (sockets_checkpoint tab))
      · exact (oneCall_of_same (stateAt_withSocket tab url)).congr
          (sockets_checkpoint _)
  | callbinder api verb query =>
      rcases tabStep_callbinder h with ⟨middle, hasks, rfl⟩
      exact (oneCall_asks hasks).congr (sockets_checkpoint middle)
  | graphAGLBindings =>
      rcases tabStep_graphAGLBindings h with ⟨middle, hasks, rfl⟩
      exact (oneCall_asks hasks).congr (sockets_checkpoint middle)
  | close i =>
      rcases tabStep_close h with ⟨socket, middle, hsocket, hcloses, rfl⟩
      have hsame := stateAt_of_modify hsocket (by split <;> rfl) hcloses.sockets
      exact (oneCall_of_same hsame).congr (sockets_checkpoint middle)
  | opened i =>
      rcases tabStep_opened h with ⟨_, last, counter, rfl, hlast, _, rfl⟩
      rcases oneCall_authorized number hlast with ⟨changed, hother⟩
      refine ⟨changed, ?_⟩
      intro ticket hne
      rw [stateAt_congr (sockets_checkpoint _), hother ticket hne]
      exact stateAt_modify (f := fun socket =>
        { socket with readyState := ReadyState.opened }) (fun _ => rfl) rfl
        ticket
  | message i m =>
      rcases tabStep_message h with ⟨socket, hsocket, _, rfl⟩
      have hchanges : ChangesOne socket.page
          (finalState ((onmessage m).run (tab.pageOf socket))) :=
        changesOne_onmessage m (tab.pageOf socket)
      refine (oneCall_withPage hsocket hchanges).congr ?_
      rw [sockets_checkpoint, sockets_afterScript]
      rfl
  | closed i failed =>
      rcases tabStep_closed h with ⟨socket, middle, hsocket, _, hcloses, rfl⟩
      have hsame := stateAt_of_modify hsocket rfl hcloses.sockets
      exact (oneCall_of_same hsame).congr (sockets_checkpoint middle)

/-- At most one call is settled by a move. -/
theorem settles_of_oneCall (h : OneCall move.before move.after) :
    exists only, forall ticket, Settles ticket move -> ticket = only := by
  rcases h with ⟨changed, hother⟩
  refine ⟨changed, ?_⟩
  rintro ticket ⟨hbefore, state, hstate, hsettled⟩
  by_contra hne
  rw [hother ticket hne] at hstate
  exact hbefore ⟨state, hstate, hsettled⟩

/-!
## Who waits for what
-/

def TabAction.draws : TabAction -> Bool
  | graphAGLBindings => true
  | _ => false

/-- Reactions were added, all of which draw, or none. -/
def Enlists (draws : Bool) (tab tab' : Tab) : Prop :=
  exists made : List Waiting, tab'.waiting = tab.waiting ++ made ∧
    forall waiting, waiting ∈ made -> waiting.draws = draws

variable {draws : Bool}

theorem enlists_of_same (h : tab'.waiting = tab.waiting) :
    Enlists draws tab tab' := by
  refine ⟨[], ?_, ?_⟩
  · rw [h, List.append_nil]
  · intro waiting hmem
    cases hmem

instance : Std.Refl (Enlists draws) := ⟨fun _ => enlists_of_same rfl⟩

instance : IsTrans Tab (Enlists draws) where
  trans := by
    rintro tab tab' tab'' ⟨made, hmade, hdraws⟩ ⟨made', hmade', hdraws'⟩
    refine ⟨made ++ made', ?_, ?_⟩
    · rw [hmade', hmade, List.append_assoc]
    · intro waiting hmem
      rcases List.mem_append.mp hmem with hmem | hmem
      · exact hdraws waiting hmem
      · exact hdraws' waiting hmem

theorem enlists_onSocket {α : Type} (i : Nat) (script : Script α) :
    Moves (Enlists draws) AnyExit (onSocket number i script) where
  along := by
    intro tab
    have hafter : forall page page' : Page,
        Enlists draws tab (tab.afterScript number i page page') := fun _ _ =>
      enlists_of_same (handled_afterScript tab i _ _).waiting
    cases hsocket : tab.sockets[i]? with
    | none =>
        rw [run_onSocket_of_no_socket hsocket]
        exact Std.Refl.refl tab
    | some socket =>
        cases hrun : script.run { socket.page with token := tab.token } with
        | ok a page =>
            rw [run_onSocket_of_ok number tab hsocket hrun]
            exact hafter _ _
        | error e page =>
            rw [run_onSocket_of_error number tab hsocket hrun]
            exact hafter _ _
  exits := fun _ => trivial

theorem enlists_setReadyState (i : Nat) (readyState : ReadyState) :
    Moves (Enlists draws) AnyExit (setReadyState i readyState) :=
  ⟨fun _ => enlists_of_same rfl, fun _ => trivial⟩

theorem enlists_callbinder (api verb : String) (query : Json) :
    Moves (Enlists draws) AnyExit
      (callbinder number draws api verb query) := by
  apply moves_bind
  · exact ⟨fun _ => enlists_of_same rfl, fun _ => trivial⟩
  · intro _
    apply moves_get_bind
    · intro tab
      apply (moves_bind (enlists_onSocket tab.ws _) _).along tab
      intro promise
      refine ⟨fun tab => ⟨_, rfl, ?_⟩, fun _ => trivial⟩
      intro waiting hmem
      rw [List.mem_singleton.mp hmem]
    · exact fun _ _ _ _ => trivial

theorem enlists_init : Moves (Enlists draws) AnyExit (init number) := by
  apply moves_get_bind
  · intro tab
    cases socketUrl number tab.logger.urlWS tab.token with
    | none => exact Std.Refl.refl tab
    | some url => exact enlists_of_same rfl
  · exact fun _ _ _ _ => trivial

theorem enlists_onopen : Moves (Enlists false) AnyExit (onopen number) := by
  apply moves_bind (enlists_callbinder "xds" "auth" (Json.string ""))
  intro _
  apply moves_bind
  · exact ⟨fun _ => enlists_of_same rfl, fun _ => trivial⟩
  · intro _
    apply moves_get_bind
    · exact fun tab => (enlists_onSocket tab.ws _).along tab
    · exact fun _ _ _ _ => trivial

theorem enlists_onerror (i : Nat) :
    Moves (Enlists draws) AnyExit (onerror number i) := by
  apply moves_get_bind
  · intro tab
    cases tab.sockets[i]? with
    | none => exact Std.Refl.refl tab
    | some socket =>
        by_cases habort : socket.onabort = true
        · simp only [habort, if_true]
          have hflags : Enlists draws tab (tab.withoutHandlers i) :=
            enlists_of_same rfl
          exact IsTrans.trans _ _ _ hflags ((enlists_onSocket i callAbort).along _)
        · simp only [habort]
          exact Std.Refl.refl tab
  · exact fun _ _ _ _ => trivial

theorem enlists_close (i : Nat) :
    Moves (Enlists draws) AnyExit (close number i) := by
  apply moves_get_bind
  · intro tab
    cases tab.sockets[i]? with
    | none => exact Std.Refl.refl tab
    | some socket =>
        have hclose : Moves (Enlists draws) AnyExit
            (setReadyState i socket.readyState.close >>= fun _ =>
              if socket.onabort then onSocket number i callAbort
              else throw JsError.typeError) := by
          apply moves_bind (enlists_setReadyState i _)
          intro _
          exact moves_ite (enlists_onSocket i callAbort) (moves_throw trivial)
        exact hclose.along tab
  · exact fun _ _ _ _ => trivial

theorem enlists_perform (action : TabAction) :
    Moves (Enlists action.draws) AnyExit (action.perform number) := by
  cases action with
  | init => exact enlists_init
  | callbinder api verb query => exact enlists_callbinder api verb query
  | graphAGLBindings => exact enlists_callbinder "xds" "list" (Json.object [])
  | close i => exact enlists_close i
  | opened i =>
      exact moves_bind (enlists_setReadyState i _) fun _ => enlists_onopen
  | message i m => exact enlists_onSocket i (onmessage m)
  | closed i failed =>
      apply moves_bind (enlists_setReadyState i _)
      intro _
      have hclose : Moves (Enlists false) AnyExit
          (onSocket number i onclose) := enlists_onSocket i onclose
      exact moves_ite (moves_bind (enlists_onerror i) fun _ => hclose) hclose

end Console
end XdsService
