import XdsService.Console.Lifecycle
import XdsService.Foundation.RoundTrip

/-!
# What is sent

Every text that is handed to a socket is a call that some button or `onopen`
asked for, under an id of its own and with the token that was received last on
any connection; and what is read back from the text is this call.  The first
text that goes over a connection asks for authorization.
-/

namespace XdsService
namespace Console

open Foundation
open Foundation.Program
open Foundation.RoundTrip
open Websock

variable {number : Int -> Int -> List Char}
variable {tab tab' : Tab} {socket socket' : Socket} {i : Nat}
variable {moves : List (Move Tab TabAction Unit)}
variable {move : Move Tab TabAction Unit}

/-!
## The token
-/

def TabAction.token : TabAction -> Option Json
  | message _ m => m.token
  | _ => none

/-- The token that was received last, or the one that the page starts with. -/
def lastToken (moves : List (Move Tab TabAction Unit)) : Option Json :=
  moves.foldl (fun token move => tokenAfter token move.action.token)
    (some (Json.string "mysecret"))

theorem lastToken_snoc (moves : List (Move Tab TabAction Unit))
    (move : Move Tab TabAction Unit) :
    lastToken (moves ++ [move]) =
      tokenAfter (lastToken moves) move.action.token := by
  unfold lastToken
  rw [List.foldl_append]
  rfl

theorem token_asks {draws : Bool} {api verb : String} {query : Json}
    {middle : Tab} (h : Asks number draws api verb query tab middle) :
    middle.token = tab.token := by
  cases h with
  | refused _ => rfl
  | calls _ _ => rfl

theorem token_of_tabStep {action : TabAction} {answer : Unit}
    (h : TabStep number tab action answer tab') :
    tab'.token = tokenAfter tab.token action.token := by
  cases action with
  | init =>
      rcases tabStep_init h with ⟨_, rfl⟩ | ⟨url, _, rfl⟩
      · rw [token_checkpoint]
        rfl
      · rw [token_checkpoint]
        rfl
  | callbinder api verb query =>
      rcases tabStep_callbinder h with ⟨middle, hasks, rfl⟩
      rw [token_checkpoint, token_asks hasks]
      rfl
  | graphAGLBindings =>
      rcases tabStep_graphAGLBindings h with ⟨middle, hasks, rfl⟩
      rw [token_checkpoint, token_asks hasks]
      rfl
  | close i =>
      rcases tabStep_close h with ⟨socket, middle, _, hcloses, rfl⟩
      rw [token_checkpoint, hcloses.token]
      rfl
  | opened i =>
      rcases tabStep_opened h with ⟨_, last, counter, rfl, _, _, rfl⟩
      rw [token_checkpoint]
      rfl
  | message i m =>
      rcases tabStep_message h with ⟨socket, _, _, rfl⟩
      rw [token_checkpoint, token_afterScript]
      exact (receives_onmessage m (tab.pageOf socket)).token
  | closed i failed =>
      rcases tabStep_closed h with ⟨socket, middle, _, _, hcloses, rfl⟩
      rw [token_checkpoint, hcloses.token]
      rfl

theorem token_of_run {urlWS : String}
    (hrun : Run (TabStep number) (Tab.fresh urlWS) moves tab) :
    tab.token = lastToken moves := by
  induction hrun with
  | nil => rfl
  | snoc _ hlast ih => rw [token_of_tabStep hlast, ih, lastToken_snoc]

theorem truthy_tokenAfter {token : Option Json} (h : truthy token = true)
    (tok : Option Json) : truthy (tokenAfter token tok) = true := by
  unfold tokenAfter
  split
  · assumption
  · exact h

/-- There is always a token that counts as true. -/
theorem truthy_lastToken (moves : List (Move Tab TabAction Unit)) :
    truthy (lastToken moves) = true := by
  induction moves using List.reverseRecOn with
  | nil => decide
  | append_singleton moves move ih =>
      rw [lastToken_snoc]
      exact truthy_tokenAfter ih _

/-!
## Where the texts come from
-/

/-- The method and the request of a call, made by a button or by `onopen`. -/
def TabAction.asked? : TabAction -> Option (String × Json)
  | opened _ => some ("xds/auth", Json.string "")
  | action => action.asks?

theorem asked_of_asks {action : TabAction} {asked : String × Json}
    (h : action.asks? = some asked) : action.asked? = some asked := by
  cases action with
  | opened j => cases h
  | _ => exact h

/-- The call of the method that a move sent on the socket, under the id. -/
structure SentBy (i : Nat) (move : Move Tab TabAction Unit) (counter : Nat)
    (method : String) (query : Json) : Prop where
  last : i = move.before.ws
  asked : move.action.asked? = some (method, query)
  /-- the id is the one at which the loop of `call` stops -/
  chosen : exists socket, move.before.sockets[i]? = some socket ∧
    chooseId socket.page.pendings idCount socket.page.counter = some counter
  small : counter < idCount
  free : forall socket : Socket, move.before.sockets[i]? = some socket ->
    indexName counter ∉ socket.page.pendings

/-- Every text of the socket was sent by one of the moves. -/
def Sends (moves : List (Move Tab TabAction Unit)) (i : Nat)
    (socket : Socket) : Prop :=
  forall frame, frame ∈ socket.page.sent ->
    exists earlier move later counter method query,
      moves = earlier ++ move :: later ∧
        SentBy i move counter method query ∧
        frame = callMessage (indexName counter) method query
          (lastToken earlier)

theorem sentBy_of_chosen {counter : Nat} {method : String} {query : Json}
    (hsocket : move.before.sockets[i]? = some socket) (hws : i = move.before.ws)
    (hasked : move.action.asked? = some (method, query))
    (hchosen : chooseId socket.page.pendings idCount socket.page.counter =
      some counter) :
    SentBy i move counter method query where
  last := hws
  asked := hasked
  chosen := ⟨socket, hsocket, hchosen⟩
  small := (chooseId_eq_some hchosen).left
  free := by
    intro other hother
    rw [hsocket] at hother
    cases hother
    exact (chooseId_eq_some hchosen).right

theorem SentBy.counter_unique {counter counter' : Nat}
    {method method' : String} {query query' : Json}
    (h : SentBy i move counter method query)
    (h' : SentBy i move counter' method' query') : counter = counter' := by
  rcases h.chosen with ⟨socket, hsocket, hchosen⟩
  rcases h'.chosen with ⟨other, hother, hchosen'⟩
  rw [hsocket] at hother
  cases hother
  rw [hchosen] at hchosen'
  exact Option.some.inj hchosen'

theorem Sends.snoc (h : Sends moves i socket)
    (hsent : forall frame, frame ∈ socket'.page.sent ->
      frame ∈ socket.page.sent ∨ exists counter method query,
        SentBy i move counter method query ∧
          frame = callMessage (indexName counter) method query
            (lastToken moves)) :
    Sends (moves ++ [move]) i socket' := by
  intro frame hframe
  rcases hsent frame hframe with hold | ⟨counter, method, query, hby, hnew⟩
  · rcases h frame hold with
      ⟨earlier, other, later, counter, method, query, rfl, hby, hold⟩
    exact ⟨earlier, other, later ++ [move], counter, method, query, by simp,
      hby, hold⟩
  · exact ⟨moves, move, [], counter, method, query, rfl, hby, hnew⟩

theorem Sends.of_same (h : Sends moves i socket)
    (hsent : socket'.page.sent = socket.page.sent) :
    Sends (moves ++ [move]) i socket' := by
  apply h.snoc
  intro frame hframe
  rw [hsent] at hframe
  exact Or.inl hframe

theorem mem_sent_afterCall {page : Page} {sending : Sending} {method : String}
    {request frame : Json} {counter : Nat}
    (h : frame ∈ (page.afterCall sending method request counter).sent) :
    frame ∈ page.sent ∨
      frame = callMessage (indexName counter) method request page.token := by
  rcases List.mem_append.mp h with hold | hnew
  · exact Or.inl hold
  · split at hnew
    · exact Or.inr (List.mem_singleton.mp hnew)
    · cases hnew

theorem sends_step {answer : Unit} {after : Tab} {action : TabAction}
    (htoken : tab.token = lastToken moves) (h : Sends moves i socket)
    (hsocket : tab.sockets[i]? = some socket)
    (hstep : SocketStep tab i socket action socket') :
    Sends (moves ++ [⟨tab, action, answer, after⟩]) i socket' := by
  cases hstep with
  | idle _ => exact h.of_same rfl
  | @calls _ method query counter hasks hws hchosen =>
      apply h.snoc
      intro frame hframe
      rcases mem_sent_afterCall hframe with hold | rfl
      · exact Or.inl hold
      · refine Or.inr ⟨counter, method, query, sentBy_of_chosen hsocket hws
          (asked_of_asks hasks) hchosen, ?_⟩
        rw [← htoken]
        rfl
  | opens _ => exact h.of_same rfl
  | @authorizes j counter hws hchosen =>
      apply h.snoc
      intro frame hframe
      have hafter : frame ∈ (Page.afterCall ((tab.withReadyState j
          ReadyState.opened).pageOf socket) _ "xds/auth" (Json.string "")
            counter).sent := hframe
      rcases mem_sent_afterCall hafter with hold | rfl
      · exact Or.inl hold
      · refine Or.inr ⟨counter, "xds/auth", Json.string "",
          sentBy_of_chosen hsocket hws rfl hchosen, ?_⟩
        rw [← htoken]
        rfl
  | @receives m =>
      exact h.of_same (receives_onmessage m (tab.pageOf socket)).sent
  | ends => exact h.of_same rfl
  | closes =>
      apply h.of_same
      show Page.sent (if _ then _ else _) = _
      split
      · rfl
      · rfl

theorem sends_of_run {urlWS : String}
    (hrun : Run (TabStep number) (Tab.fresh urlWS) moves tab) :
    forall (i : Nat) (socket : Socket), tab.sockets[i]? = some socket ->
      Sends moves i socket := by
  refine forall_sockets (I := Sends) rfl ?_ ?_ hrun
  · intro moves move url _ _ _ _ frame hframe
    cases hframe
  · intro moves move j socket socket' hbefore htab hsocket hsends hstep
    exact sends_step (token_of_run hbefore) hsends hsocket hstep

/-!
## What is read back from them
-/

/-- Numbers in what is asked and in the tokens are read back. -/
structure ReadableRun (number : Int -> Int -> List Char)
    (moves : List (Move Tab TabAction Unit)) : Prop where
  code : Readable number (Json.int 2)
  asked : forall move, move ∈ moves -> forall method query,
    move.action.asked? = some (method, query) -> Readable number query
  token : forall move, move ∈ moves -> forall token,
    move.action.token = some token -> Readable number token

theorem readable_lastToken {token : Json}
    (h : forall move, move ∈ moves -> forall token,
      move.action.token = some token -> Readable number token)
    (htoken : lastToken moves = some token) : Readable number token := by
  induction moves using List.reverseRecOn generalizing token with
  | nil =>
      cases htoken
      trivial
  | append_singleton moves move ih =>
      rw [lastToken_snoc] at htoken
      unfold tokenAfter at htoken
      split at htoken
      · exact h move (by simp) token htoken
      · exact ih (fun other hmem => h other (by simp [hmem])) htoken

theorem truthy_isSome {token : Option Json} (h : truthy token = true) :
    exists value, token = some value := by
  cases token with
  | none => cases h
  | some value => exact ⟨value, rfl⟩

theorem callMessage_of_truthy {token : Json} (id method : String)
    (query : Json) (h : truthy (some token) = true) :
    callMessage id method query (some token) = Json.array
      [Json.int 2, Json.string id, Json.string method, query, token] := by
  unfold callMessage
  rw [if_pos h]
  rfl

/--
Whatever is sent in a run reads as the call that one of its moves asked for on
the last socket, under a free id, with the token received last before it.
-/
theorem frames_read_back {urlWS : String}
    (hrun : Run (TabStep number) (Tab.fresh urlWS) moves tab)
    (hreadable : ReadableRun number moves) :
    forall (i : Nat) (socket : Socket), tab.sockets[i]? = some socket ->
      forall frame, frame ∈ socket.page.sent ->
        exists earlier move later counter method query token,
          moves = earlier ++ move :: later ∧
            SentBy i move counter method query ∧
            lastToken earlier = some token ∧
            JsonText.decode (String.ofList (Stringify.stringify number [] frame)) =
              some (Json.array [Json.int 2, Json.string (indexName counter),
                Json.string method, query, token]) := by
  intro i socket hsocket frame hframe
  rcases sends_of_run hrun i socket hsocket frame hframe with
    ⟨earlier, move, later, counter, method, query, rfl, hby, rfl⟩
  have htruthy := truthy_lastToken earlier
  rcases truthy_isSome htruthy with ⟨token, htoken⟩
  have hquery := hreadable.asked move (by simp) method query hby.asked
  have htokenReadable : Readable number token := by
    apply readable_lastToken _ htoken
    intro other hmem
    exact hreadable.token other (by simp [hmem])
  refine ⟨earlier, move, later, counter, method, query, token, rfl, hby,
    htoken, ?_⟩
  rw [htoken] at htruthy ⊢
  rw [callMessage_of_truthy _ _ _ htruthy]
  have hframe : Readable number (Json.array [Json.int 2,
      Json.string (indexName counter), Json.string method, query, token]) :=
    ⟨hreadable.code, trivial, trivial, hquery, htokenReadable, trivial⟩
  have hread := decode_stringify spaces_nil hframe spaces_nil
  rwa [List.append_nil] at hread

/-- A button is used before and after the connection authorized itself. -/
def asksTwice : List TabAction :=
  [TabAction.init, TabAction.callbinder "xds" "list" (Json.object []),
    TabAction.opened 0,
    TabAction.message 0 ⟨3, "99998", none, some (Json.string "fresh")⟩,
    TabAction.callbinder "xds" "trace/start"
      (Json.object [("pid", Json.int 12)])]

theorem exists_asksTwice :
    exists moves tab,
      Run (TabStep wholeNumber) (Tab.fresh "ws://target/api") moves tab ∧
        moves.map Move.action = asksTwice :=
  exists_run_of_isSome (by decide +kernel)

theorem forall_actions {P : TabAction -> Prop} {actions : List TabAction}
    (h : moves.map Move.action = actions)
    (hall : forall action, action ∈ actions -> P action) :
    forall move, move ∈ moves -> P move.action := by
  intro move hmem
  apply hall
  rw [← h]
  exact List.mem_map_of_mem hmem

theorem readableRun_asksTwice (h : moves.map Move.action = asksTwice) :
    ReadableRun wholeNumber moves where
  code := readsBack_toString 2
  asked := by
    refine forall_actions (P := fun action => forall method query,
      action.asked? = some (method, query) -> Readable wholeNumber query) h ?_
    intro action hmem method query hasked
    simp only [asksTwice, List.mem_cons, List.not_mem_nil, or_false] at hmem
    rcases hmem with rfl | rfl | rfl | rfl | rfl
    · cases hasked
    · cases hasked
      trivial
    · cases hasked
      trivial
    · cases hasked
    · cases hasked
      exact ⟨readsBack_toString 12, trivial⟩
  token := by
    refine forall_actions (P := fun action => forall token,
      action.token = some token -> Readable wholeNumber token) h ?_
    intro action hmem token htoken
    simp only [asksTwice, List.mem_cons, List.not_mem_nil, or_false] at hmem
    rcases hmem with rfl | rfl | rfl | rfl | rfl
    · cases htoken
    · cases htoken
    · cases htoken
    · cases htoken
      trivial
    · cases htoken

theorem frames_read_back_asksTwice :
    exists moves tab,
      Run (TabStep wholeNumber) (Tab.fresh "ws://target/api") moves tab ∧
        moves.map Move.action = asksTwice ∧
        forall (i : Nat) (socket : Socket), tab.sockets[i]? = some socket ->
          forall frame, frame ∈ socket.page.sent ->
            exists earlier move later counter method query token,
              moves = earlier ++ move :: later ∧
                SentBy i move counter method query ∧
                lastToken earlier = some token ∧
                JsonText.decode (String.ofList
                    (Stringify.stringify wholeNumber [] frame)) =
                  some (Json.array [Json.int 2,
                    Json.string (indexName counter), Json.string method, query,
                    token]) := by
  rcases exists_asksTwice with ⟨moves, tab, hrun, hactions⟩
  exact ⟨moves, tab, hrun, hactions,
    frames_read_back hrun (readableRun_asksTwice hactions)⟩

/-!
## Authorization comes first
-/

theorem length_le_of_run {start : Tab}
    (hrun : Run (TabStep number) start moves tab) :
    forall move, move ∈ moves ->
      move.before.sockets.length ≤ tab.sockets.length := by
  induction hrun with
  | nil =>
      intro move hmem
      cases hmem
  | snoc _ hlast ih =>
      intro move hmem
      rcases List.mem_append.mp hmem with hmem | hmem
      · exact Nat.le_trans (ih move hmem) (length_le_of_tabStep hlast)
      · rw [List.mem_singleton.mp hmem]
        exact length_le_of_tabStep hlast

theorem ne_ws_of_overtaken {start : Tab}
    (hrun : Run (TabStep number) start moves tab) (hmem : move ∈ moves)
    (hi : i < move.before.sockets.length) (hws : i ≠ move.before.ws) :
    i ≠ tab.ws := by
  have hlength := length_le_of_run hrun move hmem
  unfold Tab.ws at hws ⊢
  omega

/-- The texts of a socket when `onopen` was called for it. -/
def StartsWith (earlier : List (Move Tab TabAction Unit))
    (move : Move Tab TabAction Unit) (i : Nat) (sent : List Json) : Prop :=
  if i = move.before.ws then
    exists counter rest, sent =
      callMessage (indexName counter) "xds/auth" (Json.string "")
        (lastToken earlier) :: rest
  else
    sent = []

/-- Nothing is sent before `onopen`, and then authorization first. -/
structure Greeted (moves : List (Move Tab TabAction Unit)) (i : Nat)
    (socket : Socket) : Prop where
  connecting : socket.readyState = ReadyState.connecting ->
    socket.page.sent = []
  opened : forall earlier move later, moves = earlier ++ move :: later ->
    move.action = TabAction.opened i ->
    StartsWith earlier move i socket.page.sent

theorem StartsWith.append {earlier : List (Move Tab TabAction Unit)}
    {sent added : List Json} (h : StartsWith earlier move i sent)
    (hadded : i ≠ move.before.ws -> added = []) :
    StartsWith earlier move i (sent ++ added) := by
  unfold StartsWith at h ⊢
  split
  · rename_i hws
    rw [if_pos hws] at h
    rcases h with ⟨counter, rest, rfl⟩
    exact ⟨counter, rest ++ added, rfl⟩
  · rename_i hws
    rw [if_neg hws] at h
    rw [h, hadded hws]
    rfl

theorem Greeted.of_other (h : Greeted moves i socket) (added : List Json)
    (hopens : move.action ≠ TabAction.opened i)
    (hsent : socket'.page.sent = socket.page.sent ++ added)
    (hconnecting : socket'.readyState = ReadyState.connecting ->
      socket.readyState = ReadyState.connecting ∧ added = [])
    (hadded : forall other, other ∈ moves ->
      other.action = TabAction.opened i -> i ≠ other.before.ws ->
        added = []) :
    Greeted (moves ++ [move]) i socket' where
  connecting := by
    intro hstate
    rcases hconnecting hstate with ⟨hbefore, hnone⟩
    rw [hsent, h.connecting hbefore, hnone]
    rfl
  opened := by
    intro earlier other later hmoves haction
    rcases List.eq_nil_or_concat later with rfl | ⟨front, last, rfl⟩
    · have hsame := List.append_inj' hmoves rfl
      rw [← List.singleton_injective hsame.right] at haction
      exact absurd haction hopens
    · have hcut : moves ++ [move] = (earlier ++ other :: front) ++ [last] := by
        simpa using hmoves
      have hpair := List.append_inj' hcut rfl
      rw [hsent]
      apply (h.opened earlier other front hpair.left haction).append
      apply hadded other _ haction
      rw [hpair.left]
      simp

theorem connecting_of_opened {answer : Unit}
    (h : TabStep number tab (TabAction.opened i) answer tab')
    (hsocket : tab.sockets[i]? = some socket) :
    socket.readyState = ReadyState.connecting := by
  have henabled : tab.sockets[i]?.map Socket.readyState =
      some ReadyState.connecting := enabled_of_tabStep h
  rw [hsocket] at henabled
  exact Option.some.inj henabled

theorem Greeted.of_opened (hlived : Lived moves i socket)
    (hconnecting : socket.readyState = ReadyState.connecting)
    (hstate : socket'.readyState ≠ ReadyState.connecting)
    (hstarts : StartsWith moves move i socket'.page.sent) :
    Greeted (moves ++ [move]) i socket' where
  connecting h := absurd h hstate
  opened := by
    intro earlier other later hmoves haction
    rcases List.eq_nil_or_concat later with rfl | ⟨front, last, rfl⟩
    · have hsame := List.append_inj' hmoves rfl
      rw [← List.singleton_injective hsame.right, ← hsame.left]
      exact hstarts
    · have hcut : moves ++ [move] = (earlier ++ other :: front) ++ [last] := by
        simpa using hmoves
      have hnone := hlived.opened
      rw [if_pos hconnecting] at hnone
      have hzero := List.countP_eq_zero.mp (Nat.le_zero.mp hnone) other
        (by rw [(List.append_inj' hcut rfl).left]; simp)
      rw [haction] at hzero
      exact absurd (decide_eq_true rfl) hzero

theorem sent_afterCall (page : Page) (sending : Sending) (method : String)
    (request : Json) (counter : Nat) :
    (page.afterCall sending method request counter).sent = page.sent ++
      if sending = Sending.sends then
        [callMessage (indexName counter) method request page.token]
      else [] := rfl

theorem sending_of_ws (hsocket : tab.sockets[tab.ws]? = some socket) :
    tab.sending = socket.readyState.sending := by
  unfold Tab.sending
  rw [hsocket]

theorem sending_of_connecting
    (hsocket : tab.sockets[tab.ws]? = some socket)
    (hconnecting : socket.readyState = ReadyState.connecting) :
    tab.sending = Sending.sendThrows := by
  rw [sending_of_ws hsocket, hconnecting]
  rfl

theorem lt_of_run {start : Tab} (hrun : Run (TabStep number) start moves tab) :
    forall move, move ∈ moves -> forall i, move.action.about? = some i ->
      i < move.before.sockets.length := by
  apply Run.forall_moves (I := fun _ => True) (P := fun move => forall i,
    move.action.about? = some i -> i < move.before.sockets.length) trivial
    (fun _ _ => trivial) _ hrun
  intro tab action answer tab' _ hstep i habout
  exact lt_of_about (enabled_of_tabStep hstep) habout

theorem greeted_calls {start : Tab} {answer : Unit} {after : Tab}
    {action : TabAction} {sending : Sending} {method : String} {query : Json}
    {counter : Nat} (hrun : Run (TabStep number) start moves tab)
    (h : Greeted moves i socket) (hopens : action ≠ TabAction.opened i)
    (hws : i = tab.ws)
    (hsending : socket.readyState = ReadyState.connecting ->
      sending = Sending.sendThrows)
    (hstate : socket'.readyState = socket.readyState)
    (hsent : socket'.page.sent = ((tab.pageOf socket).afterCall sending method
      query counter).sent) :
    Greeted (moves ++ [⟨tab, action, answer, after⟩]) i socket' := by
  rw [sent_afterCall] at hsent
  apply h.of_other _ hopens hsent
  · intro hconnecting
    rw [hstate] at hconnecting
    refine ⟨hconnecting, if_neg ?_⟩
    rw [hsending hconnecting]
    exact Sending.noConfusion
  · intro other hmem haction hne
    have habout : other.action.about? = some i := by
      rw [haction]
      rfl
    have hlt := lt_of_run hrun other hmem i habout
    exact absurd hws (ne_ws_of_overtaken hrun hmem hlt hne)

theorem socket_withReadyState {j : Nat} {readyState : ReadyState}
    (hsocket : tab.sockets[i]? = some socket) :
    (tab.withReadyState j readyState).sockets[i]? = some { socket with
      readyState := if j = i then readyState else socket.readyState } := by
  show (tab.sockets.modify j _)[i]? = _
  rw [List.getElem?_modify, hsocket]
  by_cases hj : j = i
  · simp [hj]
  · simp [hj]

theorem sending_withReadyState {j : Nat} {readyState : ReadyState}
    (hsocket : tab.sockets[tab.ws]? = some socket) :
    (tab.withReadyState j readyState).sending =
      (if j = tab.ws then readyState else socket.readyState).sending := by
  have hchanged : (tab.withReadyState j readyState).sockets[
      (tab.withReadyState j readyState).ws]? = some { socket with
        readyState := if j = tab.ws then readyState
          else socket.readyState } := by
    rw [ws_withReadyState]
    exact socket_withReadyState hsocket
  rw [sending_of_ws hchanged]

theorem greeted_authorizes {answer : Unit} {after : Tab} {counter : Nat}
    (htoken : tab.token = lastToken moves) (hlived : Lived moves i socket)
    (h : Greeted moves i socket) (hsocket : tab.sockets[i]? = some socket)
    (hws : i = tab.ws)
    (hconnecting : socket.readyState = ReadyState.connecting)
    (hstate : socket'.readyState ≠ ReadyState.connecting)
    (hpage : socket'.page = (tab.withReadyState i
      ReadyState.opened).authorizedPage socket counter) :
    Greeted (moves ++ [⟨tab, TabAction.opened i, answer, after⟩]) i
      socket' := by
  apply Greeted.of_opened hlived hconnecting hstate
  unfold StartsWith
  rw [if_pos hws, hpage]
  refine ⟨counter, [], ?_⟩
  rw [hws] at hsocket
  show ((tab.pageOf socket).afterCall (tab.withReadyState i _).sending
    _ _ counter).sent = _
  have hsends : ReadyState.opened.sending = Sending.sends := rfl
  rw [sending_withReadyState hsocket, if_pos hws, sent_afterCall,
    if_pos hsends, ← htoken]
  show socket.page.sent ++ _ = _
  rw [h.connecting hconnecting]
  rfl

theorem greeted_step {start : Tab} {answer : Unit} {after : Tab}
    {action : TabAction} (hrun : Run (TabStep number) start moves tab)
    (htoken : tab.token = lastToken moves) (hlived : Lived moves i socket)
    (h : Greeted moves i socket) (hsocket : tab.sockets[i]? = some socket)
    (htab : TabStep number tab action answer after)
    (hstep : SocketStep tab i socket action socket') :
    Greeted (moves ++ [⟨tab, action, answer, after⟩]) i socket' := by
  cases hstep with
  | idle htouches =>
      apply h.of_other [] _ (List.append_nil _).symm
      · exact fun hstate => ⟨hstate, rfl⟩
      · exact fun _ _ _ _ => rfl
      · intro haction
        rw [show action = TabAction.opened i from haction] at htouches
        exact htouches (Or.inl rfl)
  | calls hasks hws _ =>
      refine greeted_calls hrun h ?_ hws ?_ rfl rfl
      · intro haction
        rw [haction] at hasks
        cases hasks
      · intro hconnecting
        rw [hws] at hsocket
        exact sending_of_connecting hsocket hconnecting
  | opens hws =>
      have hconnecting := connecting_of_opened htab hsocket
      apply Greeted.of_opened hlived hconnecting ReadyState.noConfusion
      unfold StartsWith
      rw [if_neg hws]
      exact h.connecting hconnecting
  | @authorizes j counter hws hchosen =>
      by_cases hj : j = i
      · subst hj
        have hconnecting := connecting_of_opened htab hsocket
        refine greeted_authorizes htoken hlived h hsocket hws hconnecting ?_ rfl
        show (if j = j then ReadyState.opened else _) ≠ _
        rw [if_pos rfl]
        exact ReadyState.noConfusion
      · refine greeted_calls hrun h ?_ hws ?_ (if_neg hj) rfl
        · intro haction
          cases haction
          exact hj rfl
        · intro hconnecting
          rw [hws] at hsocket
          rw [sending_withReadyState hsocket, if_neg (hws ▸ hj), hconnecting]
          rfl
  | @receives m =>
      have hsent := (receives_onmessage m (tab.pageOf socket)).sent
      apply h.of_other [] _ (hsent.trans (List.append_nil _).symm)
      · exact fun hstate => ⟨hstate, rfl⟩
      · exact fun _ _ _ _ => rfl
      · exact fun haction => by cases haction
  | ends =>
      apply h.of_other []
      · exact fun haction => by cases haction
      · exact (List.append_nil _).symm
      · exact fun hstate => by cases hstate
      · exact fun _ _ _ _ => rfl
  | closes =>
      apply h.of_other []
      · exact fun haction => by cases haction
      · rw [List.append_nil]
        show Page.sent (if _ then _ else _) = _
        split
        · rfl
        · rfl
      · intro hstate
        exact absurd hstate (close_ne socket.readyState).left
      · exact fun _ _ _ _ => rfl

theorem greeted_of_run {urlWS : String}
    (hrun : Run (TabStep number) (Tab.fresh urlWS) moves tab) :
    forall (i : Nat) (socket : Socket), tab.sockets[i]? = some socket ->
      Greeted moves i socket := by
  refine forall_sockets (I := Greeted) rfl ?_ ?_ hrun
  · intro moves move url hbefore _ haction _
    refine ⟨fun _ => rfl, ?_⟩
    intro earlier other later hmoves hopened
    have habout : other.action.about? =
        some move.before.sockets.length := by
      rw [hopened]
      rfl
    have hmem : other ∈ moves ++ [move] := by
      rw [hmoves]
      simp
    rcases List.mem_append.mp hmem with hmem | hmem
    · exact absurd habout (not_about_later hbefore other hmem _ (Nat.le_refl _))
    · rw [List.mem_singleton.mp hmem, haction] at hopened
      cases hopened
  · intro moves move j socket socket' hbefore htab hsocket hgreeted hstep
    exact greeted_step hbefore (token_of_run hbefore)
      (lived_of_run rfl hbefore j socket hsocket) hgreeted hsocket htab hstep

/--
Over a connection that was opened nothing is sent at all if a newer object was
made before; otherwise the first text asks for authorization, with the token
that was received last on any connection before it was opened.
-/
theorem authorization_first {urlWS : String}
    (hrun : Run (TabStep number) (Tab.fresh urlWS) moves tab)
    (hsocket : tab.sockets[i]? = some socket)
    {earlier later : List (Move Tab TabAction Unit)}
    (hmoves : moves = earlier ++ move :: later)
    (hopened : move.action = TabAction.opened i) :
    StartsWith earlier move i socket.page.sent :=
  (greeted_of_run hrun i socket hsocket).opened earlier move later hmoves
    hopened

theorem authorization_first_asksTwice :
    exists moves tab earlier move later socket,
      Run (TabStep wholeNumber) (Tab.fresh "ws://target/api") moves tab ∧
        moves = earlier ++ move :: later ∧
        moves.map Move.action = asksTwice ∧
        tab.sockets[0]? = some socket ∧
        StartsWith earlier move 0 socket.page.sent := by
  rcases exists_asksTwice with ⟨moves, tab, hrun, hactions⟩
  have hmem : TabAction.opened 0 ∈ moves.map Move.action := by
    rw [hactions]
    simp [asksTwice]
  rcases List.mem_map.mp hmem with ⟨move, hmove, hopened⟩
  rcases List.append_of_mem hmove with ⟨earlier, later, hmoves⟩
  have hlt := lt_of_run hrun move hmove 0 (by rw [hopened]; rfl)
  have hsocket := List.getElem?_eq_getElem
    (Nat.lt_of_lt_of_le hlt (length_le_of_run hrun move hmove))
  exact ⟨moves, tab, earlier, move, later, _, hrun, hmoves, hactions, hsocket,
    authorization_first hrun hsocket hmoves hopened⟩

end Console
end XdsService
