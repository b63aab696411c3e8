import XdsService.Console.Reactions
import XdsService.Websock.Closing

/-!
# Every call is accounted for

A script of the page settles promises and makes new ones, and each new one has
its reactions waiting.  The checkpoint behind it writes what was settled, so
that the element output lists the answers, each once and with its number.
-/

namespace XdsService
namespace Console

open Foundation
open Foundation.Program
open XdsService.Graph
open Websock

variable {number : Int -> Int -> List Char}
variable {tab tab' tab'' : Tab} {page page' : Page} {ticket : Ticket}
variable {socket : Socket} {i : Nat}

/-!
## A list with one more entry
-/

theorem getElem?_concat {α : Type} (xs : List α) (x : α) (k : Nat) :
    (xs ++ [x])[k]? = if k = xs.length then some x else xs[k]? := by
  rcases Nat.lt_trichotomy k xs.length with hlt | rfl | hgt
  · rw [List.getElem?_append_left hlt, if_neg (Nat.ne_of_lt hlt)]
  · rw [List.getElem?_concat_length, if_pos rfl]
  · have hlen : xs.length + 1 ≤ k := hgt
    rw [List.getElem?_eq_none (by simpa using hlen),
      if_neg (Nat.ne_of_gt hgt), List.getElem?_eq_none (Nat.le_of_lt hgt)]

theorem getElem?_concat_cases {α : Type} {xs : List α} {x y : α} {k : Nat}
    (h : (xs ++ [x])[k]? = some y) :
    xs[k]? = some y ∨ (k = xs.length ∧ y = x) := by
  rw [getElem?_concat] at h
  split at h
  · rename_i hk
    exact Or.inr ⟨hk, (Option.some.inj h).symm⟩
  · exact Or.inl h

/-!
## Handlers
-/

/-- The event that a handler logs when it is called. -/
def loggedEvent (call : Nat × Option Json) : Option (Option Json) :=
  if call.1 = logEvent then some call.2 else none

/-- These handlers were called, whatever happened to the sockets. -/
structure Hears (number : Int -> Int -> List Char)
    (calls : List (Nat × Option Json)) (tab tab' : Tab) : Prop where
  waiting : tab'.waiting = tab.waiting
  diagram : tab'.diagram = tab.diagram
  writes : Writes number [] (calls.filterMap loggedEvent) tab.logger
    tab'.logger
  indicator : tab'.indicator =
    if abort ∈ calls.map Prod.fst then closedIndicator else tab.indicator

theorem hears_nil (hwaiting : tab'.waiting = tab.waiting)
    (hdiagram : tab'.diagram = tab.diagram) (hlogger : tab'.logger = tab.logger)
    (hindicator : tab'.indicator = tab.indicator) :
    Hears number [] tab tab' := by
  refine ⟨hwaiting, hdiagram, ?_, hindicator⟩
  rw [hlogger]
  exact writes_nil tab.logger

theorem Hears.trans {calls calls' : List (Nat × Option Json)}
    (h : Hears number calls tab tab') (h' : Hears number calls' tab' tab'') :
    Hears number (calls ++ calls') tab tab'' where
  waiting := h'.waiting.trans h.waiting
  diagram := h'.diagram.trans h.diagram
  writes := by
    rw [List.filterMap_append]
    exact h.writes.trans h'.writes
  indicator := by
    rw [h'.indicator, h.indicator, List.map_append]
    simp only [List.mem_append]
    split
    · rw [if_pos (Or.inr ‹_›)]
    · rename_i hlater
      simp only [hlater, or_false]

theorem hears_runHandler (tab : Tab) (call : Nat × Option Json) :
    Hears number [call] tab (tab.runHandler number call) := by
  rcases call with ⟨handler, data⟩
  unfold Tab.runHandler
  by_cases hlog : handler = logEvent
  · subst hlog
    exact ⟨rfl, rfl, writes_eventLogged tab.logger data, rfl⟩
  · by_cases habort : handler = abort
    · subst habort
      exact ⟨rfl, rfl, writes_nil tab.logger, rfl⟩
    · have hcalls : [(handler, data)].filterMap loggedEvent = [] := by
        simp [loggedEvent, hlog]
      simp only [hlog, habort, if_false]
      refine ⟨rfl, rfl, ?_, ?_⟩
      · rw [hcalls]
        exact writes_nil tab.logger
      · simp [Ne.symm habort]

theorem sockets_runHandler (tab : Tab) (call : Nat × Option Json) :
    (tab.runHandler number call).sockets = tab.sockets ∧
      (tab.runHandler number call).token = tab.token := by
  unfold Tab.runHandler
  split
  · exact ⟨rfl, rfl⟩
  · split
    · exact ⟨rfl, rfl⟩
    · exact ⟨rfl, rfl⟩

/-- These handlers were called, and nothing else happened. -/
structure Handled (number : Int -> Int -> List Char)
    (calls : List (Nat × Option Json)) (tab tab' : Tab) : Prop extends
    Hears number calls tab tab' where
  sockets : tab'.sockets = tab.sockets
  token : tab'.token = tab.token

theorem handled_foldl (calls : List (Nat × Option Json)) (tab : Tab) :
    Handled number calls tab (calls.foldl (Tab.runHandler number) tab) := by
  induction calls generalizing tab with
  | nil => exact ⟨hears_nil rfl rfl rfl rfl, rfl, rfl⟩
  | cons call rest ih =>
      have hrest := ih (tab.runHandler number call)
      exact ⟨(hears_runHandler tab call).trans hrest.toHears,
        hrest.sockets.trans (sockets_runHandler tab call).left,
        hrest.token.trans (sockets_runHandler tab call).right⟩

/-- The handlers that were called since. -/
def Page.firedSince (page page' : Page) : List (Nat × Option Json) :=
  page'.fired.drop page.fired.length

theorem run_onSocket_of_ok {α : Type} {script : Script α} {a : α}
    (number : Int -> Int -> List Char) (tab : Tab)
    (hsocket : tab.sockets[i]? = some socket)
    (hrun : script.run { socket.page with token := tab.token } = .ok a page) :
    (onSocket number i script).run tab =
      .ok a (tab.afterScript number i socket.page page) := by
  show onSocket number i script tab = _
  unfold onSocket
  rw [hsocket]
  simp only [hrun]

theorem run_onSocket_of_error {α : Type} {script : Script α} {e : JsError}
    (number : Int -> Int -> List Char) (tab : Tab)
    (hsocket : tab.sockets[i]? = some socket)
    (hrun : script.run { socket.page with token := tab.token } =
      .error e page) :
    (onSocket number i script).run tab =
      .error e (tab.afterScript number i socket.page page) := by
  show onSocket number i script tab = _
  unfold onSocket
  rw [hsocket]
  simp only [hrun]

theorem run_onSocket_of_no_socket {α : Type} {script : Script α}
    (hsocket : tab.sockets[i]? = none) :
    (onSocket number i script).run tab = .error JsError.typeError tab := by
  show onSocket number i script tab = _
  unfold onSocket
  rw [hsocket]

/-- The tab with a page changed, before the handlers run. -/
def Tab.withPage (tab : Tab) (i : Nat) (page' : Page) : Tab :=
  { tab with
    sockets := tab.sockets.modify i fun socket => { socket with page := page' }
    token := page'.token }

theorem ws_withPage (tab : Tab) (i : Nat) (page' : Page) :
    (tab.withPage i page').ws = tab.ws := by
  unfold Tab.ws Tab.withPage
  rw [List.length_modify]

theorem handled_afterScript (tab : Tab) (i : Nat) (page page' : Page) :
    Handled number (Page.firedSince page page') (tab.withPage i page')
      (tab.afterScript number i page page') :=
  handled_foldl _ _

theorem afterScript_of_fired (h : page'.fired = page.fired) :
    tab.afterScript number i page page' = tab.withPage i page' := by
  unfold Tab.afterScript
  rw [h, List.drop_length]
  rfl

theorem stateAt_withPage (hsocket : tab.sockets[i]? = some socket)
    (page' : Page) (ticket : Ticket) :
    (tab.withPage i page').stateAt ticket =
      if ticket.socket = i then page'.promises[ticket.promise]?
      else tab.stateAt ticket := by
  unfold Tab.stateAt Tab.withPage
  rw [List.getElem?_modify]
  by_cases hi : ticket.socket = i
  · rw [if_pos hi, hi, hsocket]
    simp
  · simp [hi, Ne.symm hi]

theorem stateAt_of_socket (hsocket : tab.sockets[i]? = some socket)
    (hticket : ticket.socket = i) :
    tab.stateAt ticket = socket.page.promises[ticket.promise]? := by
  unfold Tab.stateAt
  rw [hticket, hsocket]
  rfl

/-!
## What a script does to the calls
-/

/-- No call was made, and what was settled stays so. -/
structure KeepsPromises (page page' : Page) : Prop where
  length : page'.promises.length = page.promises.length
  settled : forall (promise : Nat) (state : PromiseState),
    page.promises[promise]? = some state -> isPending state = false ->
      page'.promises[promise]? = some state

theorem SameCalls.keepsPromises (h : SameCalls page page') :
    KeepsPromises page page' where
  length := by rw [h.promises]
  settled := by
    intro promise state hstate _
    rw [h.promises]
    exact hstate

instance : Std.Refl KeepsPromises := ⟨fun _ => ⟨rfl, fun _ _ h _ => h⟩⟩

instance : IsTrans Page KeepsPromises where
  trans := fun _ _ _ hab hbc =>
    ⟨hbc.length.trans hab.length, fun promise state hstate hsettled =>
      hbc.settled promise state (hab.settled promise state hstate hsettled)
        hsettled⟩

theorem settle_of_settled {state : PromiseState} (h : isPending state = false)
    (f : Callback) (ans : Option Json) : settle f ans state = state := by
  cases state with
  | pending => cases h
  | fulfilled value => rfl
  | rejected reason => rfl

theorem keepsPromises_invoke (page : Page) (f : Callback)
    (ans : Option Json) : KeepsPromises page (page.invoke f ans) where
  length := List.length_modify _ _ _
  settled := by
    intro promise state hstate hsettled
    show (page.promises.modify f.promise (settle f ans))[promise]? = _
    rw [List.getElem?_modify, hstate]
    simp [settle_of_settled hsettled]

/-- Every exit is taken as it comes. -/
def AnyExit (_ : JsError) : Prop := True

theorem keepsPromises_reply (id : String) (ans : Option Json) (offset : Nat) :
    Moves KeepsPromises AnyExit (reply id ans offset) := by
  apply moves_get_bind
  · intro page
    by_cases hin : page.pendings.inObject id = true
    · cases hlookup : page.pendings.lookup id with
      | none =>
          simp only [hin, if_true]
          exact Std.Refl.refl page
      | some entry =>
          simp only [hin, if_true]
          cases hf : elementNamed entry (indexName offset) with
          | none => exact ⟨rfl, fun _ _ h _ => h⟩
          | some f =>
              have hinvoke := keepsPromises_invoke
                { page with pendings := page.pendings.erase id } f ans
              exact ⟨hinvoke.length, hinvoke.settled⟩
    · simp only [hin]
      exact Std.Refl.refl page
  · exact fun _ _ _ _ => trivial

theorem keepsPromises_of_sameCalls {α : Type} {script : Script α}
    (h : Moves SameCalls IsTypeError script) :
    Moves KeepsPromises AnyExit script :=
  h.weaken SameCalls.keepsPromises fun _ => trivial

theorem keepsPromises_onmessage (m : Message) :
    Moves KeepsPromises AnyExit (onmessage m) := by
  apply moves_bind (keepsPromises_of_sameCalls (sameCalls_setToken m.token))
  intro _
  apply moves_ite (keepsPromises_reply m.id m.ans 0)
  apply moves_ite (keepsPromises_reply m.id m.ans 1)
  exact keepsPromises_of_sameCalls (sameCalls_fire m.id m.ans)

theorem keepsPromises_onclose : Moves KeepsPromises AnyExit onclose where
  along := by
    intro page
    rw [run_onclose]
    exact ⟨rfl, fun _ _ h _ => h⟩
  exits := fun _ => trivial

theorem keepsPromises_callAbort : Moves KeepsPromises AnyExit callAbort where
  along := fun _ => ⟨rfl, fun _ _ h _ => h⟩
  exits := fun _ => trivial

/-!
## What a script does to the tab
-/

/-- The calls that were made, and what became of the others. -/
structure Advances (number : Int -> Int -> List Char) (tab tab' : Tab) :
    Prop where
  settled : forall (ticket : Ticket) (state : PromiseState),
    tab.stateAt ticket = some state -> isPending state = false ->
      tab'.stateAt ticket = some state
  kept : forall ticket : Ticket, (tab.stateAt ticket).isSome ->
    (tab'.stateAt ticket).isSome
  waiting : exists made : List Waiting,
    tab'.waiting = tab.waiting ++ made ∧
      (made.map Waiting.ticket).Nodup ∧
      forall ticket : Ticket, ticket ∈ made.map Waiting.ticket <->
        tab.stateAt ticket = none ∧ (tab'.stateAt ticket).isSome
  writes : exists events : List (Option Json),
    Writes number [] events tab.logger tab'.logger
  diagram : tab'.diagram = tab.diagram

theorem Advances.trans (h : Advances number tab tab')
    (h' : Advances number tab' tab'') : Advances number tab tab'' := by
  rcases h.waiting with ⟨made, hmade, hnodup, hmem⟩
  rcases h'.waiting with ⟨made', hmade', hnodup', hmem'⟩
  rcases h.writes with ⟨events, hwrites⟩
  rcases h'.writes with ⟨events', hwrites'⟩
  constructor
  · intro ticket state hstate hsettled
    exact h'.settled ticket state (h.settled ticket state hstate hsettled)
      hsettled
  · intro ticket hsome
    exact h'.kept ticket (h.kept ticket hsome)
  · refine ⟨made ++ made', ?_, ?_, ?_⟩
    · rw [hmade', hmade, List.append_assoc]
    · rw [List.map_append]
      apply List.Nodup.append hnodup hnodup'
      intro ticket hfirst hsecond
      have hsome := ((hmem ticket).mp hfirst).right
      rw [((hmem' ticket).mp hsecond).left] at hsome
      cases hsome
    · intro ticket
      rw [List.map_append, List.mem_append, hmem, hmem']
      have hkept := h.kept ticket
      have hkept' := h'.kept ticket
      revert hkept hkept'
      cases tab.stateAt ticket with
      | none =>
          cases tab'.stateAt ticket with
          | none => simp
          | some state => simp
      | some state =>
          cases tab'.stateAt ticket with
          | none => simp
          | some state => simp
  · exact ⟨events ++ events', hwrites.trans hwrites'⟩
  · exact h'.diagram.trans h.diagram

theorem advances_of_same (hsame : forall ticket : Ticket,
      tab'.stateAt ticket = tab.stateAt ticket)
    (hwaiting : tab'.waiting = tab.waiting)
    (hwrites : exists events, Writes number [] events tab.logger tab'.logger)
    (hdiagram : tab'.diagram = tab.diagram) : Advances number tab tab' where
  settled := by
    intro ticket state hstate _
    rw [hsame]
    exact hstate
  kept := by
    intro ticket hsome
    rw [hsame]
    exact hsome
  waiting := by
    refine ⟨[], ?_, List.nodup_nil, ?_⟩
    · rw [hwaiting, List.append_nil]
    · intro ticket
      rw [hsame]
      cases tab.stateAt ticket with
      | none => simp
      | some state => simp
  writes := hwrites
  diagram := hdiagram

instance : Std.Refl (Advances number) where
  refl := fun tab => advances_of_same (fun _ => rfl) rfl
    ⟨[], writes_nil tab.logger⟩ rfl

instance : IsTrans Tab (Advances number) := ⟨fun _ _ _ => Advances.trans⟩

theorem advances_withPage (hsocket : tab.sockets[i]? = some socket)
    (h : KeepsPromises socket.page page') :
    Advances number tab (tab.withPage i page') := by
  have hkept : forall ticket : Ticket,
      ((tab.withPage i page').stateAt ticket).isSome =
        (tab.stateAt ticket).isSome := by
    intro ticket
    rw [stateAt_withPage hsocket]
    split
    · rename_i hticket
      rw [stateAt_of_socket hsocket hticket, Bool.eq_iff_iff]
      simp [h.length]
    · rfl
  constructor
  · intro ticket state hstate hsettled
    rw [stateAt_withPage hsocket]
    split
    · rename_i hticket
      rw [stateAt_of_socket hsocket hticket] at hstate
      exact h.settled _ state hstate hsettled
    · exact hstate
  · intro ticket hsome
    rw [hkept]
    exact hsome
  · refine ⟨[], (List.append_nil _).symm, List.nodup_nil, ?_⟩
    intro ticket
    rw [hkept]
    cases tab.stateAt ticket with
    | none => simp
    | some state => simp
  · exact ⟨[], writes_nil tab.logger⟩
  · rfl

theorem Handled.advances {calls : List (Nat × Option Json)}
    (h : Handled number calls tab tab') : Advances number tab tab' :=
  advances_of_same (stateAt_congr h.sockets) h.waiting ⟨_, h.writes⟩ h.diagram

theorem advances_afterScript (hsocket : tab.sockets[i]? = some socket)
    (h : KeepsPromises socket.page page') (page : Page) :
    Advances number tab (tab.afterScript number i page page') :=
  (advances_withPage hsocket h).trans
    (handled_afterScript tab i page page').advances

theorem advances_onSocket {α : Type} {script : Script α}
    (h : Moves KeepsPromises AnyExit script) (i : Nat) :
    Moves (Advances number) AnyExit (onSocket number i script) where
  along := by
    intro tab
    cases hsocket : tab.sockets[i]? with
    | none =>
        rw [run_onSocket_of_no_socket hsocket]
        exact Std.Refl.refl tab
    | some socket =>
        have halong := h.along { socket.page with token := tab.token }
        cases hrun : script.run { socket.page with token := tab.token } with
        | ok a page =>
            rw [hrun] at halong
            rw [run_onSocket_of_ok number tab hsocket hrun]
            exact advances_afterScript hsocket ⟨halong.length, halong.settled⟩ _
        | error e page =>
            rw [hrun] at halong
            rw [run_onSocket_of_error number tab hsocket hrun]
            exact advances_afterScript hsocket ⟨halong.length, halong.settled⟩ _
  exits := fun _ => trivial

/-- Something about a socket changed, but not its page. -/
theorem stateAt_modify {f : Socket -> Socket}
    (hf : forall socket, (f socket).page = socket.page)
    (hsockets : tab'.sockets = tab.sockets.modify i f) (ticket : Ticket) :
    tab'.stateAt ticket = tab.stateAt ticket := by
  unfold Tab.stateAt
  rw [hsockets, List.getElem?_modify]
  cases tab.sockets[ticket.socket]? with
  | none => rfl
  | some socket =>
      by_cases hi : i = ticket.socket
      · simp [hi, hf]
      · simp [hi]

theorem advances_modify {f : Socket -> Socket}
    (hf : forall socket, (f socket).page = socket.page) (tab : Tab) (i : Nat) :
    Advances number tab { tab with sockets := tab.sockets.modify i f } :=
  advances_of_same (stateAt_modify hf rfl) rfl ⟨[], writes_nil tab.logger⟩ rfl

theorem advances_setReadyState (i : Nat) (readyState : ReadyState) :
    Moves (Advances number) AnyExit (setReadyState i readyState) where
  along := fun tab => advances_modify
    (f := fun socket => { socket with readyState := readyState })
    (fun _ => rfl) tab i
  exits := fun _ => trivial

theorem advances_init : Moves (Advances number) AnyExit (init number) := by
  apply moves_get_bind
  · intro tab
    cases socketUrl number tab.logger.urlWS tab.token with
    | none => exact Std.Refl.refl tab
    | some url =>
        refine advances_of_same ?_ rfl ⟨[], writes_nil tab.logger⟩ rfl
        intro ticket
        show (tab.sockets ++ [Socket.fresh url tab.token])[ticket.socket]?.bind
          _ = tab.sockets[ticket.socket]?.bind _
        rw [getElem?_concat]
        split
        · rename_i hlast
          rw [hlast, List.getElem?_eq_none (Nat.le_refl _)]
          rfl
        · rfl
  · exact fun _ _ _ _ => trivial

theorem advances_onerror (i : Nat) :
    Moves (Advances number) AnyExit (onerror number i) := by
  apply moves_get_bind
  · intro tab
    cases tab.sockets[i]? with
    | none => exact Std.Refl.refl tab
    | some socket =>
        by_cases habort : socket.onabort = true
        · simp only [habort, if_true]
          have hflags : Advances number tab _ := advances_modify
            (f := fun socket =>
              { socket with onopen := false, onabort := false })
            (fun _ => rfl) tab i
          exact hflags.trans
            ((advances_onSocket keepsPromises_callAbort i).along _)
        · simp only [habort]
          exact Std.Refl.refl tab
  · exact fun _ _ _ _ => trivial

theorem advances_close (i : Nat) :
    Moves (Advances number) AnyExit (close number i) := by
  apply moves_get_bind
  · intro tab
    cases tab.sockets[i]? with
    | none => exact Std.Refl.refl tab
    | some socket =>
        have hclose : Moves (Advances number) AnyExit
            (setReadyState i socket.readyState.close >>= fun _ =>
              if socket.onabort then onSocket number i callAbort
              else throw JsError.typeError) := by
          apply moves_bind (advances_setReadyState i _)
          intro _
          exact moves_ite (advances_onSocket keepsPromises_callAbort i)
            (moves_throw trivial)
        exact hclose.along tab
  · exact fun _ _ _ _ => trivial

/-- The tab after a call of `callbinder` that took the id of `counter`. -/
def Tab.afterCallbinder (number : Int -> Int -> List Char) (tab : Tab)
    (socket : Socket) (counter : Nat) (draws : Bool) (api verb : String)
    (query : Json) : Tab :=
  { tab with
    logger := tab.logger.command number api verb query
    sockets := tab.sockets.modify tab.ws fun other => { other with
      page := Page.afterCall { socket.page with token := tab.token } tab.sending
        (api ++ "/" ++ verb) query counter }
    waiting := tab.waiting ++
      [⟨⟨tab.ws, socket.page.promises.length⟩, draws⟩] }

/-- The tab after `log.command`. -/
def Tab.asked (number : Int -> Int -> List Char) (tab : Tab)
    (api verb : String) (query : Json) : Tab :=
  { tab with logger := tab.logger.command number api verb query }

section Callbinder

variable {draws : Bool} {api verb : String} {query : Json} {counter : Nat}

theorem run_callbinder (tab : Tab) :
    (callbinder number draws api verb query).run tab =
      (onSocket number tab.ws (call tab.sending (api ++ "/" ++ verb) query) >>=
        fun promise => modify fun tab => { tab with
          waiting := tab.waiting ++ [⟨⟨tab.ws, promise⟩, draws⟩] }).run
        (tab.asked number api verb query) := rfl

theorem run_callbinder_of_chosen (hsocket : tab.sockets[tab.ws]? = some socket)
    (hchosen : chooseId socket.page.pendings idCount socket.page.counter =
      some counter) :
    (callbinder number draws api verb query).run tab =
      .ok () (tab.afterCallbinder number socket counter draws api verb
        query) := by
  have hcall : (call tab.sending (api ++ "/" ++ verb) query).run
      { socket.page with token := tab.token } =
      .ok socket.page.promises.length
        (Page.afterCall { socket.page with token := tab.token } tab.sending
          (api ++ "/" ++ verb) query counter) := run_call_of_chosen hchosen
  have hscript : (onSocket number tab.ws
      (call tab.sending (api ++ "/" ++ verb) query)).run
        (tab.asked number api verb query) =
      .ok socket.page.promises.length ((tab.asked number api verb query).withPage
        tab.ws (Page.afterCall { socket.page with token := tab.token }
          tab.sending (api ++ "/" ++ verb) query counter)) := by
    rw [run_onSocket_of_ok number (tab.asked number api verb query) hsocket
      hcall]
    exact congrArg _ (afterScript_of_fired rfl)
  rw [run_callbinder, run_bind_of_ok hscript]
  rw [EStateM.run_modify]
  simp only [ws_withPage]
  rfl

theorem run_callbinder_of_endless
    (hsocket : tab.sockets[tab.ws]? = some socket)
    (hchosen : chooseId socket.page.pendings idCount socket.page.counter =
      none) :
    (callbinder number draws api verb query).run tab =
      .error JsError.endless ((tab.asked number api verb query).withPage tab.ws
        { socket.page with token := tab.token }) := by
  have hcall : (call tab.sending (api ++ "/" ++ verb) query).run
      { socket.page with token := tab.token } =
      .error JsError.endless { socket.page with token := tab.token } := by
    unfold call
    rw [EStateM.run_bind, EStateM.run_get]
    simp only [hchosen]
    rfl
  rw [run_callbinder, run_bind_of_error (run_onSocket_of_error number
    (tab.asked number api verb query) hsocket hcall)]
  exact congrArg _ (afterScript_of_fired rfl)

theorem run_callbinder_of_no_socket (hsocket : tab.sockets[tab.ws]? = none) :
    (callbinder number draws api verb query).run tab =
      .error JsError.typeError (tab.asked number api verb query) := by
  rw [run_callbinder]
  exact run_bind_of_error (run_onSocket_of_no_socket hsocket)

theorem advances_asked (tab : Tab) :
    Advances number tab (tab.asked number api verb query) :=
  advances_of_same (fun _ => rfl) rfl
    ⟨[], writes_command tab.logger api verb query⟩ rfl

theorem stateAt_afterCallbinder (hsocket : tab.sockets[tab.ws]? = some socket)
    (ticket : Ticket) :
    (tab.afterCallbinder number socket counter draws api verb query).stateAt
        ticket =
      if ticket = ⟨tab.ws, socket.page.promises.length⟩ then
        some (callPromise tab.sending)
      else tab.stateAt ticket := by
  have hpage := stateAt_withPage hsocket
    (Page.afterCall { socket.page with token := tab.token } tab.sending
      (api ++ "/" ++ verb) query counter) ticket
  refine Eq.trans hpage ?_
  rcases ticket with ⟨i, promise⟩
  by_cases hi : i = tab.ws
  · subst hi
    rw [stateAt_of_socket hsocket rfl]
    rw [if_pos rfl]
    show (socket.page.promises ++ [callPromise tab.sending])[promise]? = _
    rw [getElem?_concat]
    simp
  · simp [hi]

theorem advances_afterCallbinder
    (hsocket : tab.sockets[tab.ws]? = some socket) :
    Advances number tab
      (tab.afterCallbinder number socket counter draws api verb query) := by
  have hnone : tab.stateAt ⟨tab.ws, socket.page.promises.length⟩ = none := by
    rw [stateAt_of_socket hsocket rfl]
    exact List.getElem?_eq_none (Nat.le_refl _)
  constructor
  · intro ticket state hstate _
    rw [stateAt_afterCallbinder hsocket]
    split
    · rename_i hticket
      rw [hticket, hnone] at hstate
      cases hstate
    · exact hstate
  · intro ticket hsome
    rw [stateAt_afterCallbinder hsocket]
    split
    · rfl
    · exact hsome
  · refine ⟨_, rfl, List.nodup_singleton _, ?_⟩
    intro ticket
    rw [stateAt_afterCallbinder hsocket, List.map_singleton,
      List.mem_singleton]
    split
    · rename_i hticket
      simp [hticket, hnone]
    · rename_i hticket
      cases tab.stateAt ticket with
      | none => simp [hticket]
      | some state => simp [hticket]
  · exact ⟨[], writes_command tab.logger api verb query⟩
  · rfl

theorem advances_callbinder :
    Moves (Advances number) AnyExit
      (callbinder number draws api verb query) where
  along := by
    intro tab
    cases hsocket : tab.sockets[tab.ws]? with
    | none =>
        rw [run_callbinder_of_no_socket hsocket]
        exact advances_asked tab
    | some socket =>
        cases hchosen :
            chooseId socket.page.pendings idCount socket.page.counter with
        | none =>
            rw [run_callbinder_of_endless hsocket hchosen]
            apply (advances_asked tab).trans
            have hkeeps : KeepsPromises socket.page
                { socket.page with token := tab.token } :=
              ⟨rfl, fun _ _ h _ => h⟩
            exact advances_withPage hsocket hkeeps
        | some counter =>
            rw [run_callbinder_of_chosen hsocket hchosen]
            exact advances_afterCallbinder hsocket
  exits := fun _ => trivial

end Callbinder

theorem keepsPromises_onevent (name : String) (handler : Nat) :
    Moves KeepsPromises AnyExit (onevent name handler) :=
  keepsPromises_of_sameCalls (sameCalls_onevent name handler)

theorem advances_onopen : Moves (Advances number) AnyExit (onopen number) := by
  apply moves_bind advances_callbinder
  intro _
  apply moves_bind
  · exact ⟨fun tab => advances_of_same (fun _ => rfl) rfl
      ⟨[], writes_nil tab.logger⟩ rfl, fun _ => trivial⟩
  · intro _
    apply moves_get_bind
    · intro tab
      exact (advances_onSocket (keepsPromises_onevent "*" logEvent) tab.ws).along
        tab
    · exact fun _ _ _ _ => trivial

theorem advances_perform (action : TabAction) :
    Moves (Advances number) AnyExit (action.perform number) := by
  cases action with
  | init => exact advances_init
  | callbinder api verb query => exact advances_callbinder
  | graphAGLBindings => exact advances_callbinder
  | close i => exact advances_close i
  | opened i =>
      exact moves_bind (advances_setReadyState i _) fun _ => advances_onopen
  | message i m => exact advances_onSocket (keepsPromises_onmessage m) i
  | closed i failed =>
      apply moves_bind (advances_setReadyState i _)
      intro _
      have hclose : Moves (Advances number) AnyExit
          (onSocket number i onclose) :=
        advances_onSocket keepsPromises_onclose i
      exact moves_ite (moves_bind (advances_onerror i) fun _ => hclose) hclose

end Console
end XdsService
