import XdsService.Foundation.Runs
import XdsService.Graph.Drawing
import XdsService.Websock.Logger
import XdsService.Websock.Steps

/-!
# The page and its connections

`init` makes a websocket object and puts it in the global `ws`, at first when
the page is loaded and again whenever the button is clicked; the objects before
it live on through the handlers of their sockets, and all share AFB_context.
`callbinder` logs a question, calls over `ws`, and logs the answer when the
promise of the call is settled.
-/

namespace XdsService
namespace Console

open Foundation
open Foundation.Coercion
open Foundation.Program
open XdsService.Graph
open Websock

/-!
## The state
-/

inductive ReadyState where
  | connecting
  | opened
  | closing
  | closed
deriving DecidableEq, Repr

structure Socket where
  /-- the websocket object; the token in it is that of its last script -/
  page : Page
  readyState : ReadyState
  url : String
  onopen : Bool
  onabort : Bool

structure Indicator where
  visible : Bool
  connected : String
  background : String
deriving DecidableEq, Repr

structure Ticket where
  socket : Nat
  promise : Nat
deriving DecidableEq, Repr

/-- The reactions of a call of `callbinder` that did not run yet. -/
structure Waiting where
  ticket : Ticket
  /-- whether `graphAGLBindings` waits for the answer as well -/
  draws : Bool
deriving DecidableEq, Repr

structure Tab where
  /-- the sockets in the order of their making, so that the last one is `ws` -/
  sockets : List Socket
  token : Option Json
  logger : Logger
  waiting : List Waiting
  indicator : Indicator
  diagram : Diagram

def Tab.fresh (urlWS : String) : Tab where
  sockets := []
  token := some (Json.string "mysecret")
  logger := Logger.fresh urlWS
  waiting := []
  indicator := ⟨false, "Binder WS Fail", ""⟩
  diagram := Diagram.empty

def Tab.ws (tab : Tab) : Nat := tab.sockets.length - 1

def Tab.stateAt (tab : Tab) (ticket : Ticket) : Option PromiseState :=
  tab.sockets[ticket.socket]?.bind fun socket =>
    socket.page.promises[ticket.promise]?

abbrev TabScript (α : Type) : Type := EStateM JsError Tab α

section Source

variable (number : Int -> Int -> List Char)

/-!
## Handlers

The websocket object knows its handlers by numbers.
-/

def logEvent : Nat := 0

/-- The function `onabort` of `init`. -/
def abort : Nat := 1

/-- `log.event(obj)` for an object that may be undefined -/
def eventLogged (logger : Logger) : Option Json -> Logger
  | some obj => logger.event number obj
  | none =>
      { (logger.print ("gotevent:" ++ undefinedText).toList none).write
          Element.outevt (counted logger.evtIdx ": " ++ undefinedText.toList)
        with evtIdx := logger.evtIdx + 1 }

def activeIndicator : Indicator := ⟨true, "Binder WS Active", "lightgreen"⟩

def closedIndicator : Indicator := ⟨false, "Connected Closed", "red"⟩

def Tab.runHandler (tab : Tab) (call : Nat × Option Json) : Tab :=
  if call.1 = logEvent then
    { tab with logger := eventLogged number tab.logger call.2 }
  else if call.1 = abort then
    { tab with indicator := closedIndicator }
  else tab

/-- The page of a socket is changed, and the handlers that it called run. -/
def Tab.afterScript (tab : Tab) (i : Nat) (page page' : Page) : Tab :=
  (page'.fired.drop page.fired.length).foldl (Tab.runHandler number)
    { tab with
      sockets := tab.sockets.modify i fun socket =>
        { socket with page := page' }
      token := page'.token }

def onSocket {α : Type} (i : Nat) (script : Script α) : TabScript α := fun tab =>
  match tab.sockets[i]? with
  | none => .error JsError.typeError tab
  | some socket =>
      match script.run { socket.page with token := tab.token } with
      | .ok a page => .ok a (tab.afterScript number i socket.page page)
      | .error e page => .error e (tab.afterScript number i socket.page page)

/-!
## callbinder
-/

/-- What becomes of `ws.send`, which throws only while a socket connects. -/
def ReadyState.sending : ReadyState -> Sending
  | connecting => Sending.sendThrows
  | _ => Sending.sends

def Tab.sending (tab : Tab) : Sending :=
  match tab.sockets[tab.ws]? with
  | some socket => socket.readyState.sending
  | none => Sending.sendThrows

/-- `callbinder`, whose promise `graphAGLBindings` may wait for. -/
def callbinder (draws : Bool) (api verb : String) (query : Json) :
    TabScript Unit := do
  modify fun tab => { tab with
    logger := tab.logger.command number api verb query }
  let tab <- get
  let promise <- onSocket number tab.ws
    (call tab.sending (api ++ "/" ++ verb) query)
  modify fun tab => { tab with
    waiting := tab.waiting ++ [⟨⟨tab.ws, promise⟩, draws⟩] }

/-- `graphAGLBindings` up to the answer -/
def graphAGLBindings : TabScript Unit :=
  callbinder number true "xds" "list" (Json.object [])

/-!
## The reactions to an answer
-/

abbrev LogScript (α : Type) : Type := EStateM JsError Logger α

/-- `log.reply(obj)`; undefined has no method `replace` -/
def logReply : Option Json -> LogScript Unit
  | some obj => modify fun logger => logger.reply number obj
  | none => do
      modify fun logger =>
        logger.print ("replyok:" ++ undefinedText).toList none
      throw JsError.typeError

def countAnswer : LogScript Unit :=
  modify fun logger => { logger with count := logger.count + 1 }

def onFulfilled (res : Option Json) : LogScript Unit := do
  logReply number res
  countAnswer

/-- What `log.reply` gets of a reason; exceptions have no members of their own. -/
def loggedReason : Reason -> Option Json
  | Reason.answered ans => ans
  | Reason.thrown => some (Json.object [])

def onRejected (reason : Reason) : LogScript Unit := do
  logReply number (loggedReason reason)
  countAnswer

/-- The log after `catch`, and the reason of the promise of `callbinder`. -/
def caught (logger : Logger) (reason : Reason) : Logger × PromiseState :=
  match (onRejected number reason).run logger with
  | .ok _ logger => (logger, PromiseState.rejected reason)
  | .error _ logger => (logger, PromiseState.rejected Reason.thrown)

def react (logger : Logger) : PromiseState -> Logger × PromiseState
  | PromiseState.pending => (logger, PromiseState.pending)
  | PromiseState.fulfilled value =>
      match (onFulfilled number value).run logger with
      | .ok _ logger => (logger, PromiseState.fulfilled value)
      | .error _ logger => caught number logger Reason.thrown
  | PromiseState.rejected reason => caught number logger reason

def Tab.drawn (tab : Tab) (draws : Bool) : PromiseState -> Tab
  | PromiseState.fulfilled value =>
      if draws then
        { tab with
          diagram := finalState ((drawAnswer number value).run tab.diagram) }
      else tab
  | _ => tab

def isPending : PromiseState -> Bool
  | PromiseState.pending => true
  | _ => false

def Tab.isWaiting (tab : Tab) (waiting : Waiting) : Bool :=
  (tab.stateAt waiting.ticket).all isPending

def Tab.runReactions (tab : Tab) (waiting : Waiting) : Tab :=
  match tab.stateAt waiting.ticket with
  | none => tab
  | some state =>
      let reacted := react number tab.logger state
      { tab with logger := reacted.1 }.drawn number waiting.draws reacted.2

def Tab.checkpoint (tab : Tab) : Tab :=
  (tab.waiting.filter fun waiting => !tab.isWaiting waiting).foldl
    (Tab.runReactions number)
    { tab with waiting := tab.waiting.filter tab.isWaiting }

/-!
## The websocket object and its socket

The constructor binds its own parameter `onopen` to the socket; the function
`onopen` of the file, which would delete `onabort`, is hidden by it.
-/

/-- `u` of the constructor; nothing ever sets the uuid. -/
def socketUrl (urlWS : String) (token : Option Json) : Option String :=
  if truthy token then
    (textOf? number token).map fun text => urlWS ++ "?x-afb-token=" ++ text
  else
    some urlWS

def Socket.fresh (url : String) (token : Option Json) : Socket where
  page := Page.fresh token (some abort)
  readyState := ReadyState.connecting
  url := url
  onopen := true
  onabort := true

def init : TabScript Unit := do
  let tab <- get
  match socketUrl number tab.logger.urlWS tab.token with
  | none => throw JsError.typeError
  | some url =>
      set { tab with
        sockets := tab.sockets ++ [Socket.fresh url tab.token] }

def setReadyState (i : Nat) (readyState : ReadyState) : TabScript Unit :=
  modify fun tab => { tab with
    sockets := tab.sockets.modify i fun socket =>
      { socket with readyState := readyState } }

/-- The function `onopen` of `init`, whichever socket was opened. -/
def onopen : TabScript Unit := do
  callbinder number false "xds" "auth" (Json.string "")
  modify fun tab => { tab with indicator := activeIndicator }
  let tab <- get
  onSocket number tab.ws (onevent "*" logEvent)

def callAbort : Script Unit :=
  modify fun page => { page with fired := page.fired ++ [(abort, none)] }

/-- `onerror`; the object has no property of that name. -/
def onerror (i : Nat) : TabScript Unit := do
  let tab <- get
  match tab.sockets[i]? with
  | none => throw JsError.typeError
  | some socket =>
      if socket.onabort then do
        set { tab with
          sockets := tab.sockets.modify i fun socket =>
            { socket with onopen := false, onabort := false } }
        onSocket number i callAbort
      else
        pure ()

def ReadyState.close : ReadyState -> ReadyState
  | closed => closed
  | _ => closing

def close (i : Nat) : TabScript Unit := do
  let tab <- get
  match tab.sockets[i]? with
  | none => throw JsError.typeError
  | some socket => do
      setReadyState i socket.readyState.close
      if socket.onabort then
        onSocket number i callAbort
      else
        throw JsError.typeError

/-!
## Steps
-/

inductive TabAction where
  | init
  | callbinder (api verb : String) (query : Json)
  | graphAGLBindings
  | close (i : Nat)
  | opened (i : Nat)
  | message (i : Nat) (m : Message)
  /-- the connection was closed, and had failed if so said -/
  | closed (i : Nat) (failed : Bool)

/-- A WebSocket does in its state what it can, and a method needs its object. -/
def TabAction.Enabled (tab : Tab) : TabAction -> Prop
  | opened i =>
      tab.sockets[i]?.map Socket.readyState = some ReadyState.connecting
  | message i _ =>
      tab.sockets[i]?.map Socket.readyState = some ReadyState.opened
  | closed i _ =>
      exists socket, tab.sockets[i]? = some socket ∧
        socket.readyState ≠ ReadyState.closed
  | close i => i < tab.sockets.length
  | _ => True

def TabAction.perform : TabAction -> TabScript Unit
  | init => Console.init number
  | callbinder api verb query => Console.callbinder number false api verb query
  | graphAGLBindings => Console.graphAGLBindings number
  | close i => Console.close number i
  | opened i => do
      setReadyState i ReadyState.opened
      onopen number
  | message i m => onSocket number i (onmessage m)
  | closed i failed => do
      setReadyState i ReadyState.closed
      if failed then onerror number i else pure ()
      onSocket number i onclose

/-- The script ends, with an exception or without, and the reactions run. -/
inductive TabStep (tab : Tab) (action : TabAction) : Unit -> Tab -> Prop where
  | returned {tab' : Tab} :
      action.Enabled tab ->
      (action.perform number).run tab = .ok () tab' ->
      TabStep tab action () (tab'.checkpoint number)
  | thrown {tab' : Tab} :
      action.Enabled tab ->
      (action.perform number).run tab = .error JsError.typeError tab' ->
      TabStep tab action () (tab'.checkpoint number)

/-!
## Steps that are computed
-/

instance (tab : Tab) (action : TabAction) :
    Decidable (action.Enabled tab) :=
  match action with
  | TabAction.opened _ => decEq _ _
  | TabAction.message _ _ => decEq _ _
  | TabAction.closed i _ =>
      decidable_of_iff (tab.sockets[i]?.any fun socket =>
        decide (socket.readyState ≠ ReadyState.closed))
        (by simp [TabAction.Enabled, Option.any_eq_true])
  | TabAction.init => isTrue trivial
  | TabAction.callbinder _ _ _ => isTrue trivial
  | TabAction.graphAGLBindings => isTrue trivial
  | TabAction.close _ => Nat.decLt _ _

def Tab.after? (tab : Tab) (action : TabAction) : Option Tab :=
  if action.Enabled tab then
    match (action.perform number).run tab with
    | .ok _ tab' => some (tab'.checkpoint number)
    | .error JsError.typeError tab' => some (tab'.checkpoint number)
    | .error JsError.endless _ => none
  else
    none

def Tab.afterAll? (tab : Tab) : List TabAction -> Option Tab
  | [] => some tab
  | action :: rest =>
      match tab.after? number action with
      | some tab' => tab'.afterAll? rest
      | none => none

variable {number}

theorem tabStep_of_after? {tab tab' : Tab} {action : TabAction}
    (h : tab.after? number action = some tab') :
    TabStep number tab action () tab' := by
  unfold Tab.after? at h
  split at h
  · rename_i henabled
    split at h
    · rename_i hrun
      cases h
      exact TabStep.returned henabled hrun
    · rename_i hrun
      cases h
      exact TabStep.thrown henabled hrun
    · cases h
  · cases h

theorem exists_run_of_afterAll? {tab tab' : Tab} {actions : List TabAction}
    (h : tab.afterAll? number actions = some tab') :
    exists moves, Run (TabStep number) tab moves tab' ∧
      moves.map Move.action = actions := by
  induction actions generalizing tab with
  | nil =>
      cases h
      exact ⟨[], Run.nil, rfl⟩
  | cons action rest ih =>
      unfold Tab.afterAll? at h
      split at h
      · rename_i hfirst
        rcases ih h with ⟨moves, hrun, hactions⟩
        exact ⟨_, Run.cons (tabStep_of_after? hfirst) hrun,
          congrArg (action :: ·) hactions⟩
      · cases h

theorem exists_run_of_isSome {tab : Tab} {actions : List TabAction}
    (h : (tab.afterAll? number actions).isSome = true) :
    exists moves tab', Run (TabStep number) tab moves tab' ∧
      moves.map Move.action = actions := by
  rcases Option.isSome_iff_exists.mp h with ⟨tab', htab'⟩
  rcases exists_run_of_afterAll? htab' with ⟨moves, hrun, hactions⟩
  exact ⟨moves, tab', hrun, hactions⟩

end Source

end Console
end XdsService
