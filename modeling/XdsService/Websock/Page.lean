import XdsService.Foundation.Json
import XdsService.Foundation.Program
import XdsService.Foundation.Properties

/-!
# The websocket object of the web page

`AFB_websocket` keeps, for every call, the two functions of its promise in
`pendings` under the id of the call, and the handlers of events in
`awaitens`.  The page below holds both together with the promises and with what
was sent and called, so that they can be talked about.
-/

namespace XdsService
namespace Websock

open Foundation

/-!
## Promises
-/

/-- A function of a promise; promises are numbered in the order of the calls. -/
inductive Callback where
  | resolve (promise : Nat)
  | reject (promise : Nat)
deriving DecidableEq, Repr

def Callback.promise : Callback -> Nat
  | resolve promise => promise
  | reject promise => promise

/-- Rejected by an answer of the server, or by an exception of the executor. -/
inductive Reason where
  | answered (ans : Option Json)
  | thrown

inductive PromiseState where
  | pending
  | fulfilled (value : Option Json)
  | rejected (reason : Reason)

/-- Only the first call of one of its functions settles a promise. -/
def settle (f : Callback) (ans : Option Json) : PromiseState -> PromiseState
  | PromiseState.pending =>
      match f with
      | Callback.resolve _ => PromiseState.fulfilled ans
      | Callback.reject _ => PromiseState.rejected (Reason.answered ans)
  | settled => settled

/-!
## The page
-/

/-- `typeError` is thrown; `endless` is a loop that does not end. -/
inductive JsError where
  | typeError
  | endless
deriving DecidableEq, Repr

structure Page where
  pendings : Properties (List Callback)
  /-- the handlers, known by numbers; what they do are steps of their own -/
  awaitens : Properties (List Nat)
  counter : Nat
  token : Option Json
  onclose : Option Nat
  promises : List PromiseState
  /-- the texts handed to `ws.send`, before `JSON.stringify` -/
  sent : List Json
  /-- the functions of promises that were called, with their argument -/
  called : List (Callback × Option Json)
  fired : List (Nat × Option Json)

def Page.fresh (token : Option Json) (onabort : Option Nat) : Page where
  pendings := ∅
  awaitens := ∅
  counter := 0
  token := token
  onclose := onabort
  promises := []
  sent := []
  called := []
  fired := []

abbrev Script (α : Type) : Type := EStateM JsError Page α

def Page.invoke (page : Page) (f : Callback) (ans : Option Json) : Page :=
  { page with
    promises := page.promises.modify f.promise (settle f ans)
    called := page.called ++ [(f, ans)] }

def truthy : Option Json -> Bool
  | none => false
  | some Json.null => false
  | some (Json.bool value) => value
  | some (Json.int value) => decide (value ≠ 0)
  | some (Json.double mantissa _) => decide (mantissa ≠ 0)
  | some (Json.string value) => decide (value ≠ "")
  | some _ => true

/-!
## call
-/

def nextCounter (counter : Nat) : Nat := 4095 &&& (counter + 1)

/--
The do-while loop of `call`, run for at most `rounds` rounds.  After 4096 rounds
the counter is where it started, so that more rounds find nothing more.
-/
def chooseId (pendings : Properties (List Callback)) :
    Nat -> Nat -> Option Nat
  | 0, _ => none
  | rounds + 1, counter =>
      if pendings.inObject (indexName (nextCounter counter)) then
        chooseId pendings rounds (nextCounter counter)
      else
        some (nextCounter counter)

def idCount : Nat := 4096

inductive Sending where
  | sends
  | stringifyThrows
  | sendThrows
deriving DecidableEq, Repr

/-- The array `[CALL, id, method, request]`, with the token if there is one. -/
def callMessage (id method : String) (request : Json) (token : Option Json) :
    Json :=
  Json.array ([Json.int 2, Json.string id, Json.string method, request] ++
    if truthy token then token.toList else [])

def callEntry (promise : Nat) : List Callback :=
  [Callback.resolve promise, Callback.reject promise]

/-- `call`: the number of the promise that is returned. -/
def call (sending : Sending) (method : String) (request : Json) :
    Script Nat := do
  let page <- get
  match chooseId page.pendings idCount page.counter with
  | none => throw JsError.endless
  | some counter => do
      let promise := page.promises.length
      let id := indexName counter
      set { page with
        counter := counter
        pendings := page.pendings.insert id (callEntry promise)
        promises := page.promises ++ [PromiseState.pending] }
      match sending with
      | Sending.sends =>
          modify fun page => { page with
            sent := page.sent ++ [callMessage id method request page.token] }
      | _ =>
          modify fun page => { page with
            promises := page.promises.modify promise
              fun _ => PromiseState.rejected Reason.thrown }
      pure promise

/-!
## onmessage
-/

/-- A message of the protocol: the elements of the array, with a text as id. -/
structure Message where
  code : Int
  id : String
  ans : Option Json
  token : Option Json

def retok : Int := 3

def reterr : Int := 4

/-- `reply`; an inherited property has no element to call. -/
def reply (id : String) (ans : Option Json) (offset : Nat) : Script Unit := do
  let page <- get
  if page.pendings.inObject id then
    match page.pendings.lookup id with
    | none => throw JsError.typeError
    | some p => do
        set { page with pendings := page.pendings.erase id }
        match elementNamed p (indexName offset) with
        | none => throw JsError.typeError
        | some f => modify fun page => page.invoke f ans
  else
    pure ()

def fireHandlers (name : String) (data : Option Json) : Script Unit := do
  let page <- get
  match page.awaitens.lookup name with
  | some handlers =>
      set { page with
        fired := page.fired ++ handlers.map fun handler => (handler, data) }
  | none =>
      if name ∈ objectPrototype then throw JsError.typeError else pure ()

def beforeSlash (name : String) : String :=
  String.ofList (name.toList.takeWhile fun c => decide (c ≠ '/'))

def fireBeforeSlash (name : String) (data : Option Json) : Script Unit :=
  if '/' ∈ name.toList then fireHandlers (beforeSlash name) data else pure ()

def fire (name : String) (data : Option Json) : Script Unit := do
  fireHandlers name data
  fireBeforeSlash name data
  fireHandlers "*" data

def setToken (tok : Option Json) : Script Unit :=
  modify fun page => if truthy tok then { page with token := tok } else page

def onmessage (m : Message) : Script Unit := do
  setToken m.token
  if m.code = retok then
    reply m.id m.ans 0
  else if m.code = reterr then
    reply m.id m.ans 1
  else
    fire m.id m.ans

/-!
## onevent and onclose
-/

/-- `onevent`; an inherited property has no method push. -/
def onevent (name : String) (handler : Nat) : Script Unit := do
  let page <- get
  match page.awaitens.lookup name with
  | some list =>
      set { page with awaitens := page.awaitens.insert name (list ++ [handler]) }
  | none =>
      if name ∈ objectPrototype then
        throw JsError.typeError
      else
        set { page with awaitens := page.awaitens.insert name [handler] }

/-- The body of the loop of `onclose` for one entry of pendings. -/
def rejectEntry (entry : List Callback) : Script Unit :=
  match elementNamed entry "onerror" with
  | some ferr => modify fun page => page.invoke ferr (some Json.null)
  | none => pure ()

def onclose : Script Unit := do
  let page <- get
  page.pendings.entries.forM fun entry => rejectEntry entry.2
  modify fun page => { page with pendings := ∅ }
  modify fun page => { page with
    fired := page.fired ++ page.onclose.toList.map fun handler =>
      (handler, none) }

/-!
## Steps
-/

inductive Action where
  | call (sending : Sending) (method : String) (request : Json)
  | message (m : Message)
  | onevent (name : String) (handler : Nat)

/-- The code that an action runs; the answer is the promise of a call. -/
def perform : Action -> Script (Option Nat)
  | Action.call sending method request => do
      let promise <- call sending method request
      pure (some promise)
  | Action.message m => do
      onmessage m
      pure none
  | Action.onevent name handler => do
      onevent name handler
      pure none

/-- The action ends; an exception is reported and leaves the page as it is. -/
inductive Handles (page : Page) (action : Action) :
    Option Nat -> Page -> Prop where
  | returned {answer : Option Nat} {page' : Page} :
      (perform action).run page = .ok answer page' ->
      Handles page action answer page'
  | thrown {page' : Page} :
      (perform action).run page = .error JsError.typeError page' ->
      Handles page action none page'

end Websock
end XdsService
