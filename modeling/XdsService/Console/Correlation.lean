import XdsService.Console.Frames
import XdsService.Console.Transcript
import XdsService.Websock.Exchange

/-!
# Every line answers its own call

Over any number of connections, and whatever the messages are, the promise of a
call is settled by the first answer behind the call that carries its id on its
socket, and by nothing else.  The id is the one at which the loop of `call`
stopped, so that a promise has one call and one outcome.
-/

namespace XdsService
namespace Console

open Foundation
open Foundation.Program
open Websock

variable {number : Int -> Int -> List Char}
variable {tab tab' : Tab} {socket socket' : Socket} {i : Nat}
variable {moves later : List (Move Tab TabAction Unit)}
variable {move : Move Tab TabAction Unit}
variable {ids : List Nat} {state : PromiseState} {sending : Sending}
variable {id : String}

/-!
## Calls and what became of them
-/

/-- The action is an answer under the id, over the socket. -/
def TabAction.Answers (i : Nat) (id : String) : TabAction -> Prop
  | message j m => j = i ∧ m.IsReply ∧ m.id = id
  | _ => False

/-- What an answer makes of the promise of its call. -/
def answerState (m : Message) : PromiseState :=
  if m.code = retok then PromiseState.fulfilled m.ans
  else PromiseState.rejected (Reason.answered m.ans)

def sendingOf (move : Move Tab TabAction Unit) : Sending :=
  match move.action with
  | TabAction.opened j =>
      (move.before.withReadyState j ReadyState.opened).sending
  | _ => move.before.sending

/-- The move made the call of the promise, under the id of the counter. -/
structure MadeBy (ticket : Ticket) (move : Move Tab TabAction Unit)
    (counter : Nat) : Prop where
  sent : exists method query,
    SentBy ticket.socket move counter method query
  promise : exists socket, move.before.sockets[ticket.socket]? = some socket ∧
    ticket.promise = socket.page.promises.length

/-- What became of a call over the socket, by the moves behind it. -/
inductive Outcome (i : Nat) (id : String) (sending : Sending)
    (later : List (Move Tab TabAction Unit)) : PromiseState -> Prop where
  | thrown :
      sending = Sending.sendThrows ->
      Outcome i id sending later (PromiseState.rejected Reason.thrown)
  | pending :
      sending = Sending.sends ->
      (forall move, move ∈ later -> ¬ move.action.Answers i id) ->
      Outcome i id sending later PromiseState.pending
  | answered {move : Move Tab TabAction Unit} {m : Message} :
      sending = Sending.sends ->
      First (fun move => move.action.Answers i id) later move ->
      move.action = TabAction.message i m ->
      Outcome i id sending later (answerState m)

theorem Outcome.snoc (h : Outcome i id sending later state)
    (hnot : state = PromiseState.pending -> ¬ move.action.Answers i id) :
    Outcome i id sending (later ++ [move]) state := by
  cases h with
  | thrown hsending => exact Outcome.thrown hsending
  | pending hsending hnone =>
      apply Outcome.pending hsending
      intro other hmem
      rcases List.mem_append.mp hmem with hmem | hmem
      · exact hnone other hmem
      · rw [List.mem_singleton.mp hmem]
        exact hnot rfl
  | answered hsending hfirst haction =>
      exact Outcome.answered hsending (hfirst.append [move]) haction

/-- The calls over a socket, with the counters whose ids they took. -/
structure Tracked (ids : List Nat) (moves : List (Move Tab TabAction Unit))
    (i : Nat) (socket : Socket) : Prop where
  length : ids.length = socket.page.promises.length
  calls : forall (p counter : Nat), ids[p]? = some counter ->
    exists earlier move later state,
      moves = earlier ++ move :: later ∧ MadeBy ⟨i, p⟩ move counter ∧
        socket.page.promises[p]? = some state ∧
        Outcome i (indexName counter) (sendingOf move) later state
  entries : forall id entry, socket.page.pendings.lookup id = some entry ->
    exists p counter, ids[p]? = some counter ∧ id = indexName counter ∧
      entry = callEntry p
  pending : forall (p counter : Nat), ids[p]? = some counter ->
    socket.page.promises[p]? = some PromiseState.pending ->
      socket.readyState = ReadyState.closed ∨
        socket.page.pendings.lookup (indexName counter) = some (callEntry p)

theorem tracked_fresh {url : String} {token : Option Json} :
    Tracked [] moves i (Socket.fresh url token) where
  length := rfl
  calls := by
    intro p counter hid
    cases hid
  entries := by
    intro id entry hentry
    cases hentry
  pending := by
    intro p counter hid
    cases hid

/-!
## Steps
-/

theorem Tracked.calls_of_same (h : Tracked ids moves i socket)
    (hpromises : socket'.page.promises = socket.page.promises)
    (hnot : forall (p counter : Nat), ids[p]? = some counter ->
      socket.page.promises[p]? = some PromiseState.pending ->
        ¬ move.action.Answers i (indexName counter)) :
    forall (p counter : Nat), ids[p]? = some counter ->
      exists earlier other later state,
        moves ++ [move] = earlier ++ other :: later ∧
          MadeBy ⟨i, p⟩ other counter ∧
          socket'.page.promises[p]? = some state ∧
          Outcome i (indexName counter) (sendingOf other) later state := by
  intro p counter hid
  rcases h.calls p counter hid with
    ⟨earlier, other, later, state, rfl, hmade, hstate, houtcome⟩
  refine ⟨earlier, other, later ++ [move], state, by simp, hmade, ?_, ?_⟩
  · rw [hpromises]
    exact hstate
  · apply houtcome.snoc
    intro hpending
    rw [hpending] at hstate
    exact hnot p counter hid hstate

theorem Tracked.of_same (h : Tracked ids moves i socket)
    (hpromises : socket'.page.promises = socket.page.promises)
    (hpendings : socket'.page.pendings = socket.page.pendings)
    (hclosed : socket.readyState = ReadyState.closed ->
      socket'.readyState = ReadyState.closed)
    (hnot : forall (p counter : Nat), ids[p]? = some counter ->
      socket.page.promises[p]? = some PromiseState.pending ->
        ¬ move.action.Answers i (indexName counter)) :
    Tracked ids (moves ++ [move]) i socket' where
  length := h.length.trans (congrArg List.length hpromises.symm)
  calls := h.calls_of_same hpromises hnot
  entries := by
    rw [hpendings]
    exact h.entries
  pending := by
    intro p counter hid hpending
    rw [hpromises] at hpending
    rw [hpendings]
    exact (h.pending p counter hid hpending).imp_left hclosed

theorem not_answers_of_asked {action : TabAction} {asked : String × Json}
    (h : action.asked? = some asked) : ¬ action.Answers i id := by
  cases action with
  | message j m => cases h
  | _ => exact fun hanswers => hanswers

theorem outcome_of_call (id : String) (hsending : sending ≠ Sending.stringifyThrows) :
    Outcome i id sending [] (callPromise sending) := by
  cases sending with
  | sends => exact Outcome.pending rfl fun other hmem => by cases hmem
  | sendThrows => exact Outcome.thrown rfl
  | stringifyThrows => exact absurd rfl hsending

theorem Tracked.calls_before (h : Tracked ids moves i socket)
    (hnot : forall id, ¬ move.action.Answers i id)
    (hpromises : socket'.page.promises = socket.page.promises ++ [last])
    {p counter : Nat} (hid : ids[p]? = some counter) :
    exists earlier other later state,
      moves ++ [move] = earlier ++ other :: later ∧
        MadeBy ⟨i, p⟩ other counter ∧
        socket'.page.promises[p]? = some state ∧
        Outcome i (indexName counter) (sendingOf other) later state := by
  rcases h.calls p counter hid with
    ⟨earlier, other, later, state, rfl, hmade, hstate, houtcome⟩
  refine ⟨earlier, other, later ++ [move], state, by simp, hmade, ?_,
    houtcome.snoc fun _ => hnot _⟩
  rw [hpromises, List.getElem?_append_left
    (List.getElem?_eq_some_iff.mp hstate).1]
  exact hstate

theorem Tracked.call {method : String} {query : Json} {counter : Nat}
    (h : Tracked ids moves i socket)
    (hsocket : move.before.sockets[i]? = some socket) (hws : i = move.before.ws)
    (hasked : move.action.asked? = some (method, query))
    (hchosen : chooseId socket.page.pendings idCount socket.page.counter =
      some counter)
    (hsending : sendingOf move ≠ Sending.stringifyThrows)
    (hclosed : socket.readyState = ReadyState.closed ->
      socket'.readyState = ReadyState.closed)
    (hpromises : socket'.page.promises =
      socket.page.promises ++ [callPromise (sendingOf move)])
    (hpendings : socket'.page.pendings = socket.page.pendings.insert
      (indexName counter) (callEntry socket.page.promises.length)) :
    Tracked (ids ++ [counter]) (moves ++ [move]) i socket' := by
  have hfree := chooseId_eq_some hchosen
  have hnew : (ids ++ [counter])[socket.page.promises.length]? =
      some counter := by
    rw [← h.length]
    exact List.getElem?_concat_length
  constructor
  · rw [hpromises, List.length_append, List.length_append, h.length]
    rfl
  · intro p other hid
    rcases getElem?_concat_cases hid with hold | ⟨rfl, rfl⟩
    · exact h.calls_before (fun _ => not_answers_of_asked hasked) hpromises hold
    · refine ⟨moves, move, [], callPromise (sendingOf move), rfl,
        ⟨⟨method, query, sentBy_of_chosen hsocket hws hasked hchosen⟩, socket,
          hsocket, h.length⟩, ?_, outcome_of_call _ hsending⟩
      rw [hpromises, h.length]
      exact List.getElem?_concat_length
  · intro id entry hentry
    rw [hpendings] at hentry
    by_cases hid : id = indexName counter
    · subst hid
      rw [AList.lookup_insert] at hentry
      cases hentry
      exact ⟨socket.page.promises.length, counter, hnew, rfl, rfl⟩
    · rw [AList.lookup_insert_ne hid] at hentry
      rcases h.entries id entry hentry with ⟨p, other, hold, hname, hpromise⟩
      refine ⟨p, other, ?_, hname, hpromise⟩
      rw [List.getElem?_append_left (List.getElem?_eq_some_iff.mp hold).1]
      exact hold
  · intro p other hid hpending
    rw [hpendings]
    rcases getElem?_concat_cases hid with hold | ⟨rfl, rfl⟩
    · have hlt := (List.getElem?_eq_some_iff.mp hold).1
      rw [h.length] at hlt
      rw [hpromises, List.getElem?_append_left hlt] at hpending
      apply (h.pending p other hold hpending).imp hclosed
      intro hentry
      rw [AList.lookup_insert_ne]
      · exact hentry
      · intro hname
        apply hfree.right
        rw [← hname, ← AList.lookup_isSome, hentry]
        rfl
    · right
      rw [h.length]
      exact AList.lookup_insert _

/-!
## Messages
-/

theorem final_onmessage_of_handles {m : Message} {page page' : Page}
    (h : Handles page (Action.message m) none page') :
    finalState ((onmessage m).run page) = page' := by
  rw [final_of_handles h, show perform (Action.message m) =
    onmessage m >>= fun _ => pure none from rfl, finalState_bind_pure]

/-- A pending call has its entry as long as the socket is open. -/
theorem Tracked.entry_of_pending (h : Tracked ids moves i socket)
    (hopened : socket.readyState = ReadyState.opened) {p counter : Nat}
    (hid : ids[p]? = some counter)
    (hpending : socket.page.promises[p]? = some PromiseState.pending) :
    socket.page.pendings.lookup (indexName counter) = some (callEntry p) := by
  rcases h.pending p counter hid hpending with hclosed | hentry
  · rw [hopened] at hclosed
    cases hclosed
  · exact hentry

theorem Tracked.other {m : Message} (h : Tracked ids moves i socket)
    (hopened : socket.readyState = ReadyState.opened)
    (haction : move.action = TabAction.message i m)
    (hother : m.IsReply -> m.id ∉ socket.page.pendings) :
    Tracked ids (moves ++ [move]) i { socket with
      page := finalState ((onmessage m).run (tab.pageOf socket)) } := by
  have hpendings : m.IsReply -> m.id ∉ (tab.pageOf socket).pendings := hother
  rcases exists_handles_of_other hpendings with ⟨page', hhandles, hsame⟩
  rw [final_onmessage_of_handles hhandles]
  refine h.of_same hsame.promises hsame.pendings (fun hclosed => hclosed) ?_
  intro p counter hid hpending hanswers
  rw [haction] at hanswers
  rcases hanswers with ⟨_, hreply, hname⟩
  apply hother hreply
  rw [hname, ← AList.lookup_isSome, h.entry_of_pending hopened hid hpending]
  rfl

theorem settle_callback_of_ne {f : Callback} {ans : Option Json}
    (h : state ≠ PromiseState.pending) : settle f ans state = state := by
  cases state with
  | pending => exact absurd rfl h
  | fulfilled value => rfl
  | rejected reason => rfl

theorem sends_of_pending
    (h : Outcome i id sending later PromiseState.pending) :
    sending = Sending.sends ∧
      forall move, move ∈ later -> ¬ move.action.Answers i id := by
  generalize hstate : PromiseState.pending = state at h
  cases h with
  | thrown hsending => cases hstate
  | pending hsending hnone => exact ⟨hsending, hnone⟩
  | answered hsending hfirst haction =>
      unfold answerState at hstate
      split at hstate
      · cases hstate
      · cases hstate

/-- The answer to the call, if it is the first one. -/
theorem Outcome.settled {m : Message} {promise : Nat}
    (h : Outcome i id sending later state)
    (haction : move.action = TabAction.message i m)
    (hanswers : move.action.Answers i id) :
    Outcome i id sending (later ++ [move])
      (settle (m.callback promise) m.ans state) := by
  by_cases hpending : state = PromiseState.pending
  · subst hpending
    rcases sends_of_pending h with ⟨hsending, hnone⟩
    rw [settle_callback]
    exact Outcome.answered hsending (first_snoc hnone hanswers) haction
  · rw [settle_callback_of_ne hpending]
    exact h.snoc fun heq => absurd heq hpending

theorem Tracked.answer {m : Message} {entry : List Callback}
    (h : Tracked ids moves i socket)
    (hopened : socket.readyState = ReadyState.opened)
    (haction : move.action = TabAction.message i m) (hreply : m.IsReply)
    (hentry : socket.page.pendings.lookup m.id = some entry) :
    Tracked ids (moves ++ [move]) i { socket with
      page := finalState ((onmessage m).run (tab.pageOf socket)) } := by
  rcases h.entries m.id entry hentry with ⟨p, counter, hp, hname, rfl⟩
  have hlookup : (tab.pageOf socket).pendings.lookup m.id =
      some (callEntry p) := hentry
  rcases exists_handles_of_entry hreply hlookup with
    ⟨page', hhandles, hsettles⟩
  rw [final_onmessage_of_handles hhandles]
  have hpromises : page'.promises = socket.page.promises.modify p
      (settle (m.callback p) m.ans) := hsettles.promises
  have hdistinct : forall (q other : Nat), ids[q]? = some other -> q ≠ p ->
      socket.page.promises[q]? = some PromiseState.pending ->
        m.id ≠ indexName other := by
    intro q other hq hne hpending hsame
    have hfound := h.entry_of_pending hopened hq hpending
    rw [← hsame, hentry] at hfound
    exact hne (callEntry_injective (Option.some.inj hfound)).symm
  constructor
  · rw [hpromises, List.length_modify]
    exact h.length
  · intro q other hq
    rcases h.calls q other hq with
      ⟨earlier, first, later, state, rfl, hmade, hstate, houtcome⟩
    by_cases hqp : q = p
    · subst hqp
      rw [hp] at hq
      cases hq
      refine ⟨earlier, first, later ++ [move],
        settle (m.callback q) m.ans state, by simp, hmade, ?_, ?_⟩
      · show page'.promises[q]? = _
        rw [hpromises, List.getElem?_modify_eq, hstate]
        rfl
      · apply houtcome.settled haction
        rw [haction]
        exact ⟨rfl, hreply, hname⟩
    · refine ⟨earlier, first, later ++ [move], state, by simp, hmade, ?_, ?_⟩
      · exact (promises_of_settles hsettles hqp).trans hstate
      · apply houtcome.snoc
        intro hpending hanswers
        rw [haction] at hanswers
        rw [hpending] at hstate
        exact hdistinct q other hq hqp hstate hanswers.right.right
  · intro name found hfound
    exact h.entries name found ((lookup_of_settles_iff hsettles).mp hfound).right
  · intro q other hq hpending
    have hne : q ≠ p := by
      rintro rfl
      exact not_pending_of_settles hsettles hpending
    have hbefore : socket.page.promises[q]? = some PromiseState.pending :=
      (promises_of_settles hsettles hne).symm.trans hpending
    right
    apply (lookup_of_settles_iff hsettles).mpr
    exact ⟨(hdistinct q other hq hne hbefore).symm,
      h.entry_of_pending hopened hq hbefore⟩

/-!
## Runs
-/

theorem sending_ne_stringifyThrows (tab : Tab) :
    tab.sending ≠ Sending.stringifyThrows := by
  unfold Tab.sending
  split
  · rename_i socket _
    cases socket.readyState with
    | connecting => exact Sending.noConfusion
    | opened => exact Sending.noConfusion
    | closing => exact Sending.noConfusion
    | closed => exact Sending.noConfusion
  · exact Sending.noConfusion

theorem sendingOf_ne_stringifyThrows (move : Move Tab TabAction Unit) :
    sendingOf move ≠ Sending.stringifyThrows := by
  unfold sendingOf
  split
  · exact sending_ne_stringifyThrows _
  · exact sending_ne_stringifyThrows _

theorem sendingOf_of_asks {asked : String × Json}
    (h : move.action.asks? = some asked) :
    sendingOf move = move.before.sending := by
  unfold sendingOf
  split
  · rename_i haction
    rw [haction] at h
    cases h
  · rfl

theorem not_answers_of_not_touches {action : TabAction}
    (h : ¬ action.Touches tab i) : ¬ action.Answers i id := by
  cases action with
  | message j m => exact fun hanswers => h hanswers.left.symm
  | _ => exact fun hanswers => hanswers

theorem tracked_step {answer : Unit} {after : Tab} {action : TabAction}
    (h : Tracked ids moves i socket)
    (hsocket : tab.sockets[i]? = some socket)
    (htab : TabStep number tab action answer after)
    (hstep : SocketStep tab i socket action socket') :
    exists ids', Tracked ids' (moves ++ [⟨tab, action, answer, after⟩]) i
      socket' := by
  cases hstep with
  | idle htouches =>
      refine ⟨ids, h.of_same rfl rfl (fun hclosed => hclosed) ?_⟩
      exact fun _ _ _ _ => not_answers_of_not_touches htouches
  | calls hasks hws hchosen =>
      have hsending : sendingOf ⟨tab, action, answer, after⟩ = tab.sending :=
        sendingOf_of_asks hasks
      refine ⟨_, h.call hsocket hws (asked_of_asks hasks) hchosen
        (sendingOf_ne_stringifyThrows _) (fun hclosed => hclosed) ?_ rfl⟩
      rw [hsending]
      rfl
  | opens hws =>
      refine ⟨ids, h.of_same rfl rfl ?_ fun _ _ _ _ hanswers => hanswers⟩
      intro hclosed
      rw [connecting_of_opened htab hsocket] at hclosed
      cases hclosed
  | authorizes hws hchosen =>
      refine ⟨_, h.call hsocket hws rfl hchosen
        (sendingOf_ne_stringifyThrows _) ?_ rfl rfl⟩
      intro hclosed
      apply (if_neg _).trans hclosed
      rintro rfl
      rw [connecting_of_opened htab hsocket] at hclosed
      cases hclosed
  | @receives m =>
      rcases tabStep_message htab with ⟨other, hother, hopened, _⟩
      rw [hsocket] at hother
      cases hother
      refine ⟨ids, ?_⟩
      by_cases hreply : m.IsReply
      · cases hentry : socket.page.pendings.lookup m.id with
        | some entry => exact h.answer hopened rfl hreply hentry
        | none =>
            exact h.other hopened rfl fun _ => AList.lookup_eq_none.mp hentry
      · exact h.other hopened rfl fun hyes => absurd hyes hreply
  | ends =>
      refine ⟨ids, h.length, ?_, ?_, fun _ _ _ _ => Or.inl rfl⟩
      · exact h.calls_of_same rfl fun _ _ _ _ hanswers => hanswers
      · intro name entry hentry
        cases hentry
  | closes =>
      have hsame : SameCalls socket.page (if socket.onabort then
          Page.aborted (tab.pageOf socket) else socket.page) := by
        split
        · exact ⟨rfl, rfl, rfl, rfl, rfl⟩
        · exact ⟨rfl, rfl, rfl, rfl, rfl⟩
      refine ⟨ids, h.of_same hsame.promises hsame.pendings ?_
        fun _ _ _ _ hanswers => hanswers⟩
      intro hclosed
      show socket.readyState.close = ReadyState.closed
      rw [hclosed]
      rfl

theorem tracked_of_run {start : Tab} (hstart : start.sockets = [])
    (hrun : Run (TabStep number) start moves tab) :
    forall (i : Nat) (socket : Socket), tab.sockets[i]? = some socket ->
      exists ids, Tracked ids moves i socket := by
  refine forall_sockets (I := fun moves i socket =>
    exists ids, Tracked ids moves i socket) hstart ?_ ?_ hrun
  · intro moves move url _ _ _ _
    exact ⟨[], tracked_fresh⟩
  · intro moves move j socket socket' _ htab hsocket htracked hstep
    rcases htracked with ⟨ids, htracked⟩
    exact tracked_step htracked hsocket htab hstep

/-- The promise is that of a call of the run, and tells what became of it. -/
def Correlates (moves : List (Move Tab TabAction Unit)) (ticket : Ticket)
    (state : PromiseState) : Prop :=
  exists earlier move later counter,
    moves = earlier ++ move :: later ∧ MadeBy ticket move counter ∧
      Outcome ticket.socket (indexName counter) (sendingOf move) later state

theorem correlates_of_run {start : Tab} (hstart : start.sockets = [])
    (hrun : Run (TabStep number) start moves tab) {ticket : Ticket}
    (hstate : tab.stateAt ticket = some state) :
    Correlates moves ticket state := by
  rcases Option.bind_eq_some_iff.mp hstate with ⟨socket, hsocket, hpromise⟩
  rcases tracked_of_run hstart hrun ticket.socket socket hsocket with
    ⟨ids, htracked⟩
  have hlt := (List.getElem?_eq_some_iff.mp hpromise).1
  rw [← htracked.length] at hlt
  rcases htracked.calls ticket.promise _ (List.getElem?_eq_getElem hlt) with
    ⟨earlier, move, later, found, hmoves, hmade, hfound, houtcome⟩
  rw [hpromise] at hfound
  cases hfound
  exact ⟨earlier, move, later, _, hmoves, hmade, houtcome⟩

/-!
## One call for each promise
-/

theorem Outcome.unique {state' : PromiseState}
    (h : Outcome i id sending later state)
    (h' : Outcome i id sending later state') : state = state' := by
  cases h with
  | thrown hsending =>
      cases h' with
      | thrown _ => rfl
      | pending hsending' _ => cases hsending.symm.trans hsending'
      | answered hsending' _ _ => cases hsending.symm.trans hsending'
  | pending hsending hnone =>
      cases h' with
      | thrown hsending' => cases hsending.symm.trans hsending'
      | pending _ _ => rfl
      | answered _ hfirst _ => exact absurd hfirst.holds (hnone _ hfirst.mem)
  | answered hsending hfirst haction =>
      cases h' with
      | thrown hsending' => cases hsending.symm.trans hsending'
      | pending _ hnone => exact absurd hfirst.holds (hnone _ hfirst.mem)
      | answered _ hfirst' haction' =>
          rw [hfirst.unique hfirst', haction'] at haction
          cases haction
          rfl

theorem kept_of_run {start : Tab} {ticket : Ticket}
    (hrun : Run (TabStep number) start moves tab)
    (hmade : (start.stateAt ticket).isSome = true) :
    (tab.stateAt ticket).isSome = true := by
  refine Run.invariant (I := fun tab => (tab.stateAt ticket).isSome = true)
    hmade ?_ hrun
  intro tab action answer tab' hbefore hstep
  rw [final_of_tabStep hstep, stateAt_congr (sockets_checkpoint _)]
  exact ((advances_perform action).along tab).kept ticket hbefore

theorem called_of_tabStep {action : TabAction} {answer : Unit}
    {asked : String × Json} (h : TabStep number tab action answer tab')
    (hasked : action.asked? = some asked)
    (hsocket : tab.sockets[tab.ws]? = some socket) :
    (exists counter, chooseId socket.page.pendings idCount
        socket.page.counter = some counter) ∧
      (tab'.stateAt ⟨tab.ws, socket.page.promises.length⟩).isSome = true := by
  have hadded : forall (socket' : Socket) (last : PromiseState),
      tab'.sockets[tab.ws]? = some socket' ->
      socket'.page.promises = socket.page.promises ++ [last] ->
      (tab'.stateAt ⟨tab.ws, socket.page.promises.length⟩).isSome = true := by
    intro socket' last hsocket' hpromises
    rw [stateAt_of_socket hsocket' rfl, hpromises,
      List.getElem?_concat_length]
    rfl
  rcases tabStep_socket h hsocket with ⟨socket', hsocket', hstep⟩
  cases hstep with
  | idle htouches =>
      cases action with
      | callbinder api verb query => exact absurd rfl htouches
      | graphAGLBindings => exact absurd rfl htouches
      | opened j => exact absurd (Or.inr rfl) htouches
      | _ => cases hasked
  | calls _ _ hchosen => exact ⟨⟨_, hchosen⟩, hadded _ _ hsocket' rfl⟩
  | opens hws => exact absurd rfl hws
  | authorizes _ hchosen => exact ⟨⟨_, hchosen⟩, hadded _ _ hsocket' rfl⟩
  | receives => cases hasked
  | ends => cases hasked
  | closes => cases hasked

theorem MadeBy.makes {ticket : Ticket} {counter : Nat}
    (h : MadeBy ticket move counter)
    (hstep : TabStep number move.before move.action move.answer move.after) :
    Makes ticket move := by
  rcases h.sent with ⟨method, query, hsent⟩
  rcases h.promise with ⟨socket, hsocket, hpromise⟩
  rcases ticket with ⟨i, promise⟩
  cases hsent.last
  cases hpromise
  refine ⟨?_, (called_of_tabStep hstep hsent.asked hsocket).right⟩
  rw [stateAt_of_socket hsocket rfl]
  exact List.getElem?_eq_none (Nat.le_refl _)

/-- A promise is made once, by one move. -/
theorem makes_unique {start : Tab} {ticket : Ticket}
    {earlier before behind : List (Move Tab TabAction Unit)}
    {other : Move Tab TabAction Unit}
    (hrun : Run (TabStep number) start moves tab)
    (hmoves : moves = earlier ++ move :: later)
    (hother : moves = before ++ other :: behind)
    (h : Makes ticket move) (h' : Makes ticket other) :
    move = other ∧ later = behind := by
  have hnot : forall {earlier gap later : List (Move Tab TabAction Unit)}
      {first second : Move Tab TabAction Unit},
      moves = earlier ++ first :: (gap ++ second :: later) ->
        Makes ticket first -> ¬ Makes ticket second := by
    intro earlier gap later first second hcut hfirst hsecond
    rw [hcut] at hrun
    rcases hrun.at_cut.right.right.at_cut with ⟨hgap, _⟩
    have hkept := kept_of_run hgap hfirst.right
    rw [hsecond.left] at hkept
    cases hkept
  rcases cut_cases (hmoves.symm.trans hother) with
    ⟨_, hsame, hlater⟩ | ⟨gap, _, rfl⟩ | ⟨gap, _, rfl⟩
  · exact ⟨hsame, hlater⟩
  · exact absurd h' (hnot hmoves h)
  · exact absurd h (hnot hother h')

theorem stateAt_of_correlates {start : Tab} (hstart : start.sockets = [])
    (hrun : Run (TabStep number) start moves tab) {ticket : Ticket}
    (h : Correlates moves ticket state) : tab.stateAt ticket = some state := by
  rcases h with ⟨earlier, move, later, counter, hmoves, hmade, houtcome⟩
  rw [hmoves] at hrun
  rcases hrun.at_cut with ⟨_, hstep, hlater⟩
  have hmakes := hmade.makes hstep
  rcases Option.isSome_iff_exists.mp (kept_of_run hlater hmakes.right) with
    ⟨found, hfound⟩
  rcases correlates_of_run hstart hrun hfound with
    ⟨before, other, behind, counter', hcut, hmade', houtcome'⟩
  have hrun' := hrun
  rw [hcut] at hrun'
  have hmakes' := hmade'.makes hrun'.at_cut.right.left
  rcases makes_unique hrun rfl hcut hmakes hmakes' with ⟨rfl, rfl⟩
  rcases hmade.sent with ⟨_, _, hsent⟩
  rcases hmade'.sent with ⟨_, _, hsent'⟩
  cases hsent.counter_unique hsent'
  rw [hfound, houtcome.unique houtcome']

theorem stateAt_iff_correlates {start : Tab} (hstart : start.sockets = [])
    (hrun : Run (TabStep number) start moves tab) (ticket : Ticket)
    (state : PromiseState) :
    tab.stateAt ticket = some state <-> Correlates moves ticket state :=
  ⟨correlates_of_run hstart hrun, stateAt_of_correlates hstart hrun⟩

/-- Whoever calls while there is a socket gets a promise. -/
theorem exists_madeBy {start : Tab} {asked : String × Json}
    (hrun : Run (TabStep number) start moves tab) (hmem : move ∈ moves)
    (hasked : move.action.asked? = some asked)
    (hsockets : move.before.sockets ≠ []) :
    exists ticket counter, MadeBy ticket move counter ∧
      (tab.stateAt ticket).isSome = true := by
  rcases List.append_of_mem hmem with ⟨earlier, later, rfl⟩
  rcases hrun.at_cut with ⟨_, hstep, hlater⟩
  rcases Option.ne_none_iff_exists'.mp
    (mt sockets_ws_eq_none_iff.mp hsockets) with ⟨socket, hsocket⟩
  rcases called_of_tabStep hstep hasked hsocket with ⟨⟨counter, hchosen⟩, hmade⟩
  exact ⟨⟨move.before.ws, socket.page.promises.length⟩, counter,
    ⟨⟨_, _, sentBy_of_chosen hsocket rfl hasked hchosen⟩, socket, hsocket, rfl⟩,
    kept_of_run hlater hmade⟩

/--
Over every run a promise is in the state that its own call has: settled by the
first answer behind the call that carries the id that the call took, on its own
socket, and by nothing else.  Every call with a socket has its promise, and the
element output lists the settled ones in the order in which they were settled.
-/
theorem answers_correlate {urlWS : String}
    (hrun : Run (TabStep number) (Tab.fresh urlWS) moves tab) :
    (forall (ticket : Ticket) (state : PromiseState),
      tab.stateAt ticket = some state <-> Correlates moves ticket state) ∧
      (forall move asked, move ∈ moves -> move.action.asked? = some asked ->
        move.before.sockets ≠ [] -> exists ticket counter,
          MadeBy ticket move counter ∧
            (tab.stateAt ticket).isSome = true) ∧
      exists answered : List Ticket,
        Chronicle Settles moves answered ∧ answered.Nodup ∧
          (forall ticket, ticket ∈ answered <-> tab.Settled ticket) ∧
          lines tab.logger Element.output =
            answerLines number 0 (answered.filterMap tab.answerTo) := by
  rcases transcribes_of_run hrun with ⟨answered, htranscribes⟩
  refine ⟨stateAt_iff_correlates rfl hrun,
    fun _ _ hmem hasked hsockets => exists_madeBy hrun hmem hasked hsockets,
    answered.map Waiting.ticket, htranscribes.inOrder,
    htranscribes.answeredOnce, htranscribes.answered_iff, ?_⟩
  rw [List.filterMap_map]
  exact htranscribes.output

/-- The same id on two connections, and two answers on the first. -/
def twoConnections : List TabAction :=
  [TabAction.init, TabAction.opened 0, TabAction.init, TabAction.opened 1,
    TabAction.message 1 ⟨reterr, "1", some (Json.string "denied"), none⟩,
    TabAction.message 0 ⟨retok, "1", some (Json.int 7), none⟩,
    TabAction.message 0 ⟨retok, "1", some (Json.int 8), none⟩,
    TabAction.callbinder "xds" "list" Json.null]

theorem answers_correlate_twoConnections :
    exists moves tab,
      Run (TabStep wholeNumber) (Tab.fresh "ws://target/api") moves tab ∧
        moves.map Move.action = twoConnections ∧
        (forall (ticket : Ticket) (state : PromiseState),
          tab.stateAt ticket = some state <->
            Correlates moves ticket state) ∧
        (forall move asked, move ∈ moves ->
          move.action.asked? = some asked -> move.before.sockets ≠ [] ->
            exists ticket counter, MadeBy ticket move counter ∧
              (tab.stateAt ticket).isSome = true) ∧
        exists answered : List Ticket,
          Chronicle Settles moves answered ∧ answered.Nodup ∧
            (forall ticket, ticket ∈ answered <-> tab.Settled ticket) ∧
            lines tab.logger Element.output =
              answerLines wholeNumber 0 (answered.filterMap tab.answerTo) := by
  have hplayed : ((Tab.fresh "ws://target/api").afterAll? wholeNumber
      twoConnections).isSome = true := by
    decide +kernel
  rcases exists_run_of_isSome hplayed with ⟨moves, tab, hrun, hactions⟩
  exact ⟨moves, tab, hrun, hactions, answers_correlate hrun⟩

end Console
end XdsService
