import XdsService.Console.Sockets

/-!
# Who hears an event

`onopen` of `init` registers `log.event` with the socket in `ws`, whichever
socket was opened.  An event is therefore logged once for every socket that was
opened while the one it comes from was the last.
-/

namespace XdsService
namespace Console

open Foundation
open Foundation.Program
open Websock

variable {number : Int -> Int -> List Char}
variable {tab tab' : Tab} {socket : Socket} {page : Page} {i : Nat}
variable {moves : List (Move Tab TabAction Unit)}

/-!
## Registrations
-/

/-- How often `log.event` was registered with the socket. -/
def registeredFor (i : Nat) (moves : List (Move Tab TabAction Unit)) : Nat :=
  moves.countP fun move => move.action.isOpened && decide (i = move.before.ws)

/-- The same handler under the wildcard, so many times. -/
def starRegistrations (k : Nat) : List Registration :=
  (List.range k).map fun n => ⟨n, "*", logEvent⟩

theorem starRegistrations_succ (k : Nat) :
    starRegistrations (k + 1) = starRegistrations k ++ [⟨k, "*", logEvent⟩] := by
  unfold starRegistrations
  rw [List.range_succ, List.map_append]
  rfl

theorem registeredFor_snoc_of_opened {move : Move Tab TabAction Unit}
    (haction : move.action.isOpened = true) (hi : i = move.before.ws) :
    registeredFor i (moves ++ [move]) = registeredFor i moves + 1 := by
  simp [registeredFor, haction, hi]

theorem registeredFor_snoc_of_other {move : Move Tab TabAction Unit}
    (h : move.action.isOpened = true -> i ≠ move.before.ws) :
    registeredFor i (moves ++ [move]) = registeredFor i moves := by
  have hnot : (move.action.isOpened && decide (i = move.before.ws)) = false := by
    cases haction : move.action.isOpened with
    | false => rfl
    | true => simp [h haction]
  simp [registeredFor, hnot]

/-- What is known of the handlers of a socket. -/
structure Listens (moves : List (Move Tab TabAction Unit)) (i : Nat)
    (socket : Socket) : Prop where
  handlers : HoldsHandlers (starRegistrations (registeredFor i moves))
    socket.page
  onclose : socket.page.onclose = some abort

theorem Listens.of_page {move : Move Tab TabAction Unit} {socket' : Socket}
    (h : Listens moves i socket)
    (hmove : move.action.isOpened = true -> i ≠ move.before.ws)
    (hawaitens : socket'.page.awaitens = socket.page.awaitens)
    (honclose : socket'.page.onclose = socket.page.onclose) :
    Listens (moves ++ [move]) i socket' where
  handlers := by
    rw [registeredFor_snoc_of_other hmove]
    exact h.handlers.of_awaitens hawaitens
  onclose := honclose.trans h.onclose

theorem ws_lt_of_opened {j : Nat} {answer : Unit}
    (h : TabStep number tab (TabAction.opened j) answer tab') :
    tab.ws < tab.sockets.length := by
  have henabled : tab.sockets[j]?.map Socket.readyState =
      some ReadyState.connecting := enabled_of_tabStep h
  rcases Option.map_eq_some_iff.mp henabled with ⟨socket, hsocket, _⟩
  have hlt := (List.getElem?_eq_some_iff.mp hsocket).1
  exact Nat.sub_lt (Nat.zero_lt_of_lt hlt) Nat.one_pos

theorem registeredFor_of_run {start : Tab}
    (hrun : Run (TabStep number) start moves tab) :
    forall j, tab.sockets.length ≤ j -> registeredFor j moves = 0 := by
  induction hrun with
  | nil => exact fun _ _ => rfl
  | @snoc moves tab tab' action answer _ hlast ih =>
      intro j hj
      have hbefore := Nat.le_trans (length_le_of_tabStep hlast) hj
      rw [registeredFor_snoc_of_other, ih j hbefore]
      intro hopened hws
      cases action with
      | opened i =>
          have hlt := ws_lt_of_opened hlast
          rw [← hws] at hlt
          exact Nat.not_le.mpr hlt hbefore
      | _ => cases hopened

theorem listens_step {move : Move Tab TabAction Unit} {socket' : Socket}
    (h : Listens moves i socket)
    (hstep : SocketStep move.before i socket move.action socket') :
    Listens (moves ++ [move]) i socket' := by
  rcases move with ⟨before, action, answer, after⟩
  cases hstep with
  | idle htouches =>
      refine h.of_page ?_ rfl rfl
      intro hopened hws
      cases action with
      | opened i => exact htouches (Or.inr hws)
      | _ => cases hopened
  | calls hasks _ _ =>
      refine h.of_page ?_ rfl rfl
      intro hopened
      cases action with
      | opened i => cases hasks
      | _ => cases hopened
  | opens hws => exact h.of_page (fun _ => hws) rfl rfl
  | @authorizes j counter hws hchosen =>
      constructor
      · rw [registeredFor_snoc_of_opened rfl hws, starRegistrations_succ]
        have htable : HoldsHandlers (starRegistrations (registeredFor i moves))
            (((before.withReadyState j ReadyState.opened).pageOf
              socket).afterCall (before.withReadyState j
                ReadyState.opened).sending "xds/auth" (Json.string "")
                  counter) := h.handlers.of_awaitens rfl
        exact holdsHandlers_onevent htable _
          (handles_onevent_of_own star_notMem_objectPrototype logEvent _)
      · exact h.onclose
  | @receives m =>
      have hkeeps := receives_onmessage m (before.pageOf socket)
      exact h.of_page (fun hopened => by cases hopened) hkeeps.awaitens
        hkeeps.onclose
  | ends => exact h.of_page (fun hopened => by cases hopened) rfl rfl
  | closes =>
      refine h.of_page (fun hopened => by cases hopened) ?_ ?_
      · show Page.awaitens (if _ then _ else _) = _
        split
        · rfl
        · rfl
      · show Page.onclose (if _ then _ else _) = _
        split
        · rfl
        · rfl

theorem listens_of_run {start : Tab} (hstart : start.sockets = [])
    (hrun : Run (TabStep number) start moves tab) :
    forall (i : Nat) (socket : Socket), tab.sockets[i]? = some socket ->
      Listens moves i socket := by
  refine forall_sockets (I := Listens) hstart ?_ ?_ hrun
  · intro moves move url hbefore _ haction _
    have hzero : registeredFor move.before.sockets.length (moves ++ [move]) =
        0 := by
      rw [registeredFor_snoc_of_other]
      · exact registeredFor_of_run hbefore _ (Nat.le_refl _)
      · intro hopened
        rw [haction] at hopened
        cases hopened
    constructor
    · rw [hzero]
      exact holdsHandlers_fresh _ _
    · rfl
  · intro moves move j socket socket' _ _ _ hlistens hstep
    exact listens_step hlistens hstep

/-!
## The events that are logged
-/

/-- How often an event of that name reaches a handler under the wildcard. -/
def starLookups (name : String) : Nat :=
  if (ownNames name).any (fun own => decide (own ∈ objectPrototype)) then 0
  else if "*" ∈ ownNames name then 2
  else 1

theorem count_star_served (name : String) :
    (served name).count "*" = starLookups name := by
  unfold starLookups
  split
  · rename_i hinherited
    rcases List.any_eq_true.mp hinherited with ⟨own, hown, hmem⟩
    have hmem := of_decide_eq_true hmem
    rw [List.count_eq_zero, mem_served_iff]
    rintro ⟨_, hstar | ⟨_, hnone⟩⟩
    · exact notMem_objectPrototype_of_star hstar own hown hmem
    · exact hnone own hown hmem
  · rename_i hnone
    have hserved : served name = ownNames name ++ ["*"] := by
      unfold served
      rw [List.takeWhile_eq_self_iff]
      intro own hown
      rcases List.mem_append.mp hown with hown | hstar
      · by_contra hinherited
        apply hnone
        rw [List.any_eq_true]
        exact ⟨own, hown, by simpa using hinherited⟩
      · rw [List.mem_singleton.mp hstar]
        exact decide_eq_true star_notMem_objectPrototype
    rw [hserved, List.count_append, List.count_singleton_self]
    split
    · rw [List.count_eq_one_of_mem (nodup_ownNames name) ‹_›]
    · rw [List.count_eq_zero.mpr ‹_›]

theorem calls_starRegistrations (k : Nat) (names : List String)
    (data : Option Json) :
    (buckets Registration.pattern (starRegistrations k) names).map
        (fun r => (r.handler, data)) =
      List.replicate (names.count "*" * k) (logEvent, data) := by
  have hall : forall r, r ∈ starRegistrations k ->
      r.pattern = "*" ∧ r.handler = logEvent := by
    intro r hr
    rcases List.mem_map.mp hr with ⟨n, _, rfl⟩
    exact ⟨rfl, rfl⟩
  have hlength : (starRegistrations k).length = k := by
    unfold starRegistrations
    rw [List.length_map, List.length_range]
  induction names with
  | nil => simp [buckets]
  | cons name names ih =>
      rw [buckets_cons, List.map_append, ih]
      by_cases hname : name = "*"
      · subst hname
        have hbucket : bucket Registration.pattern (starRegistrations k) "*" =
            starRegistrations k :=
          List.filter_eq_self.mpr fun r hr =>
            decide_eq_true (hall r hr).left
        have hfirst : (starRegistrations k).map (fun r => (r.handler, data)) =
            List.replicate k (logEvent, data) := by
          rw [List.eq_replicate_iff, List.length_map, hlength]
          refine ⟨rfl, ?_⟩
          intro call hcall
          rcases List.mem_map.mp hcall with ⟨r, hr, rfl⟩
          rw [(hall r hr).right]
        rw [hbucket, hfirst, List.count_cons_self, List.replicate_append_replicate]
        congr 1
        rw [Nat.add_mul, Nat.one_mul, Nat.add_comm]
      · have hbucket : bucket Registration.pattern (starRegistrations k) name =
            [] := by
          rw [bucket_eq_nil_iff]
          intro r hr hpattern
          exact hname (hpattern.symm.trans (hall r hr).left)
        rw [hbucket, List.count_cons_of_ne hname]
        rfl

instance (m : Message) : Decidable m.IsReply := by
  unfold Message.IsReply
  infer_instance

/-- What a step adds to the log of events. -/
def loggedBy (earlier : List (Move Tab TabAction Unit)) :
    TabAction -> List (Option Json)
  | TabAction.message i m =>
      if m.IsReply then []
      else List.replicate (starLookups m.id * registeredFor i earlier) m.ans
  | _ => []

/-- What a run adds to the log of events. -/
def eventsLogged (moves : List (Move Tab TabAction Unit)) :
    List (Option Json) :=
  moves.zipIdx.flatMap fun entry =>
    loggedBy (moves.take entry.2) entry.1.action

theorem eventsLogged_snoc (moves : List (Move Tab TabAction Unit))
    (move : Move Tab TabAction Unit) :
    eventsLogged (moves ++ [move]) =
      eventsLogged moves ++ loggedBy moves move.action := by
  unfold eventsLogged
  rw [List.zipIdx_append, List.flatMap_append]
  congr 1
  · apply List.flatMap_congr
    intro entry hentry
    have hlt := (List.mem_zipIdx' hentry).1
    rw [List.take_append_of_le_length (Nat.le_of_lt hlt)]
  · simp

theorem fired_of_message (h : Listens moves i socket) (m : Message) :
    (finalState ((onmessage m).run (tab.pageOf socket))).fired =
      socket.page.fired ++ if m.IsReply then []
      else List.replicate (starLookups m.id * registeredFor i moves)
        (logEvent, m.ans) := by
  split
  · rename_i hreply
    rw [fired_onmessage_of_reply hreply, List.append_nil]
    rfl
  · rename_i hevent
    rcases run_setToken m.token (tab.pageOf socket) with ⟨token, htoken⟩
    have htable : HoldsHandlers (starRegistrations (registeredFor i moves))
        { tab.pageOf socket with token := token } :=
      h.handlers.of_awaitens rfl
    rw [onmessage_of_event hevent, run_bind_of_ok htoken,
      finalState_fire htable, ← count_star_served,
      ← calls_starRegistrations]
    rfl

theorem events_of_step {action : TabAction} {answer : Unit}
    (hlistens : forall (i : Nat) (socket : Socket),
      tab.sockets[i]? = some socket -> Listens moves i socket)
    (h : TabStep number tab action answer tab') :
    (action.handlerCalls tab).filterMap loggedEvent = loggedBy moves action := by
  cases action with
  | message i m =>
      rcases tabStep_message h with ⟨socket, hsocket, _, _⟩
      show (tab.callsAt i _).filterMap loggedEvent = _
      rw [callsAt_of_some hsocket,
        firedSince_append (fired_of_message (hlistens i socket hsocket) m)]
      show _ = if _ then _ else _
      split
      · rfl
      · rw [List.filterMap_replicate]
        rfl
  | closed i failed =>
      rcases tabStep_closed h with ⟨socket, middle, hsocket, _, _, _⟩
      show (tab.callsAt i _).filterMap loggedEvent = []
      rw [callsAt_of_some hsocket]
      unfold Socket.endCalls Socket.aborts
      rw [(hlistens i socket hsocket).onclose]
      split
      · rfl
      · rfl
  | close i =>
      show (tab.callsAt i _).filterMap loggedEvent = []
      unfold Tab.callsAt
      split
      · rfl
      · show List.filterMap loggedEvent (if _ then _ else _) = []
        split
        · rfl
        · rfl
  | init => rfl
  | callbinder api verb query => rfl
  | graphAGLBindings => rfl
  | opened i => rfl

/-!
## One connection
-/

def TabAction.isInit : TabAction -> Bool
  | init => true
  | _ => false

def inits (moves : List (Move Tab TabAction Unit)) : Nat :=
  moves.countP fun move => move.action.isInit

theorem length_le_inits {start : Tab}
    (hrun : Run (TabStep number) start moves tab) :
    tab.sockets.length ≤ start.sockets.length + inits moves := by
  induction hrun with
  | nil => exact Nat.le_refl _
  | @snoc moves tab tab' action answer _ hlast ih =>
      have hcount : inits (moves ++ [⟨tab, action, answer, tab'⟩]) =
          inits moves + if action.isInit then 1 else 0 := by
        simp [inits]
      rw [hcount]
      cases haction : action.isInit with
      | false =>
          have hinit : action ≠ TabAction.init := by
            rintro rfl
            cases haction
          rw [length_of_tabStep hlast hinit]
          exact ih
      | true =>
          have hinit : action = TabAction.init := by
            cases action with
            | init => rfl
            | _ => cases haction
          subst hinit
          rcases tabStep_init hlast with ⟨_, rfl⟩ | ⟨url, _, rfl⟩
          · rw [sockets_checkpoint]
            exact Nat.le_succ_of_le ih
          · rw [sockets_checkpoint]
            show (tab.sockets ++ [_]).length ≤ _
            rw [List.length_append]
            exact Nat.succ_le_succ ih

/-- With one connection `log.event` is registered once it is open. -/
structure RegistersOnce (moves : List (Move Tab TabAction Unit)) (j : Nat)
    (socket : Socket) : Prop where
  connecting : inits moves ≤ 1 ->
    socket.readyState = ReadyState.connecting -> registeredFor j moves = 0
  opened : inits moves ≤ 1 ->
    socket.readyState = ReadyState.opened -> registeredFor j moves = 1

theorem inits_le_snoc (moves : List (Move Tab TabAction Unit))
    (move : Move Tab TabAction Unit) :
    inits moves ≤ inits (moves ++ [move]) := by
  unfold inits
  rw [List.countP_append]
  exact Nat.le_add_right _ _

theorem RegistersOnce.of_state {move : Move Tab TabAction Unit}
    {socket' : Socket} (h : RegistersOnce moves i socket)
    (hmove : move.action.isOpened = true -> i ≠ move.before.ws)
    (hstate : socket'.readyState = socket.readyState) :
    RegistersOnce (moves ++ [move]) i socket' where
  connecting := by
    intro hinits hconnecting
    rw [registeredFor_snoc_of_other hmove]
    exact h.connecting (Nat.le_trans (inits_le_snoc moves move) hinits)
      (hstate.symm.trans hconnecting)
  opened := by
    intro hinits hopened
    rw [registeredFor_snoc_of_other hmove]
    exact h.opened (Nat.le_trans (inits_le_snoc moves move) hinits)
      (hstate.symm.trans hopened)

theorem registersOnce_of_state (hconnecting :
      socket.readyState ≠ ReadyState.connecting)
    (hopened : socket.readyState ≠ ReadyState.opened) :
    RegistersOnce moves i socket where
  connecting := fun _ h => absurd h hconnecting
  opened := fun _ h => absurd h hopened

theorem close_ne (readyState : ReadyState) :
    readyState.close ≠ ReadyState.connecting ∧
      readyState.close ≠ ReadyState.opened := by
  cases readyState with
  | connecting => exact ⟨ReadyState.noConfusion, ReadyState.noConfusion⟩
  | opened => exact ⟨ReadyState.noConfusion, ReadyState.noConfusion⟩
  | closing => exact ⟨ReadyState.noConfusion, ReadyState.noConfusion⟩
  | closed => exact ⟨ReadyState.noConfusion, ReadyState.noConfusion⟩

theorem only_socket {j : Nat} (hlen : tab.sockets.length ≤ 1)
    (hsocket : tab.sockets[j]? = some socket) : j = 0 ∧ tab.ws = 0 := by
  have hlt := (List.getElem?_eq_some_iff.mp hsocket).1
  constructor
  · exact Nat.lt_one_iff.mp (Nat.lt_of_lt_of_le hlt hlen)
  · exact Nat.sub_eq_zero_of_le hlen

theorem registersOnce_step {move : Move Tab TabAction Unit}
    {socket' : Socket} {start : Tab} (hstart : start.sockets = [])
    (hrun : Run (TabStep number) start moves move.before)
    (htab : TabStep number move.before move.action move.answer move.after)
    (hsocket : move.before.sockets[i]? = some socket)
    (h : RegistersOnce moves i socket)
    (hstep : SocketStep move.before i socket move.action socket') :
    RegistersOnce (moves ++ [move]) i socket' := by
  have honly : forall {j : Nat} {other : Socket},
      inits (moves ++ [move]) ≤ 1 -> move.before.sockets[j]? = some other ->
        j = 0 ∧ move.before.ws = 0 := by
    intro j other hinits hother
    have hlen := length_le_inits hrun
    rw [hstart, List.length_nil, Nat.zero_add] at hlen
    exact only_socket (Nat.le_trans hlen (Nat.le_trans
      (inits_le_snoc moves move) hinits)) hother
  rcases move with ⟨before, action, answer, after⟩
  cases hstep with
  | idle htouches =>
      refine h.of_state ?_ rfl
      intro hopened hws
      cases action with
      | opened i => exact htouches (Or.inr hws)
      | _ => cases hopened
  | calls hasks _ _ =>
      refine h.of_state ?_ rfl
      intro hopened
      cases action with
      | opened i => cases hasks
      | _ => cases hopened
  | opens hws =>
      constructor
      · intro hinits _
        rcases honly hinits hsocket with ⟨hi, hlast⟩
        exact absurd (hi.trans hlast.symm) hws
      · intro hinits _
        rcases honly hinits hsocket with ⟨hi, hlast⟩
        exact absurd (hi.trans hlast.symm) hws
  | @authorizes j counter hws hchosen =>
      have henabled : before.sockets[j]?.map Socket.readyState =
          some ReadyState.connecting := enabled_of_tabStep htab
      rcases Option.map_eq_some_iff.mp henabled with ⟨other, hother, hstate⟩
      constructor
      · intro hinits hconnecting
        have hji := (honly hinits hother).left.trans
          (honly hinits hsocket).left.symm
        simp [hji] at hconnecting
      · intro hinits _
        have hji := (honly hinits hother).left.trans
          (honly hinits hsocket).left.symm
        rw [hji, hsocket] at hother
        cases hother
        rw [registeredFor_snoc_of_opened rfl hws,
          h.connecting (Nat.le_trans (inits_le_snoc moves _) hinits) hstate]
  | receives => exact h.of_state (fun hopened => by cases hopened) rfl
  | ends =>
      apply registersOnce_of_state
      · exact ReadyState.noConfusion
      · exact ReadyState.noConfusion
  | closes => exact registersOnce_of_state (close_ne _).left (close_ne _).right

theorem registersOnce_of_run {start : Tab} (hstart : start.sockets = [])
    (hrun : Run (TabStep number) start moves tab) :
    forall (i : Nat) (socket : Socket), tab.sockets[i]? = some socket ->
      RegistersOnce moves i socket := by
  refine forall_sockets (I := RegistersOnce) hstart ?_ ?_ hrun
  · intro moves move url hbefore _ haction _
    constructor
    · intro _ _
      rw [registeredFor_snoc_of_other]
      · exact registeredFor_of_run hbefore _ (Nat.le_refl _)
      · intro hopened
        rw [haction] at hopened
        cases hopened
    · intro _ hopened
      cases hopened
  · intro moves move j socket socket' hbefore htab hsocket hregisters hstep
    exact registersOnce_step hstart hbefore htab hsocket hregisters hstep

/-!
## Every run
-/

/-- The message is an event of a name that is not looked up apart. -/
def IsPlainEvent (m : Message) : Prop :=
  ¬ m.IsReply ∧ "*" ∉ ownNames m.id ∧
    forall own, own ∈ ownNames m.id -> own ∉ objectPrototype

theorem starLookups_of_plain {m : Message} (h : IsPlainEvent m) :
    starLookups m.id = 1 := by
  unfold starLookups
  rw [if_neg, if_neg h.right.left]
  intro hany
  rcases List.any_eq_true.mp hany with ⟨own, hown, hmem⟩
  exact h.right.right own hown (of_decide_eq_true hmem)

theorem eventsLogged_of_run {urlWS : String}
    (hrun : Run (TabStep number) (Tab.fresh urlWS) moves tab) :
    lines tab.logger Element.outevt =
        eventLines number 0 (eventsLogged moves) ∧
      tab.logger.evtIdx = (eventsLogged moves).length := by
  induction hrun with
  | nil => exact ⟨rfl, rfl⟩
  | @snoc moves tab tab' action answer hinit hlast ih =>
      rcases (tabStep_shows hlast).writes with ⟨answers, hwrites⟩
      rw [events_of_step (listens_of_run rfl hinit) hlast] at hwrites
      rw [eventsLogged_snoc]
      constructor
      · rw [hwrites.outevt, ih.left, ih.right, eventLines_append, Nat.zero_add]
      · rw [hwrites.evtIdx, ih.right, List.length_append]

/--
Over every run the element outevt lists the events, each as often as it was
registered for, and once if there was one connection.
-/
theorem events_heard {urlWS : String}
    (hrun : Run (TabStep number) (Tab.fresh urlWS) moves tab) :
    lines tab.logger Element.outevt =
        eventLines number 0 (eventsLogged moves) ∧
      (inits moves ≤ 1 -> forall (i : Nat) (m : Message) (tab' : Tab),
        TabStep number tab (TabAction.message i m) () tab' ->
          IsPlainEvent m -> loggedBy moves (TabAction.message i m) = [m.ans]) := by
  constructor
  · exact (eventsLogged_of_run hrun).left
  · intro hinits i m tab' hstep hplain
    rcases tabStep_message hstep with ⟨socket, hsocket, hopened, _⟩
    have hone := (registersOnce_of_run rfl hrun i socket hsocket).opened hinits
      hopened
    show (if m.IsReply then [] else _) = _
    rw [if_neg hplain.left, starLookups_of_plain hplain, hone]
    rfl

/-- One connection, which gets a plain event and one named by the wildcard. -/
def hearsTwoEvents : List TabAction :=
  [TabAction.init, TabAction.opened 0,
    TabAction.message 0 ⟨5, "xds/state", some (Json.int 1), none⟩,
    TabAction.message 0 ⟨5, "*", some (Json.int 2), none⟩]

theorem events_heard_hearsTwoEvents :
    exists moves tab,
      Run (TabStep wholeNumber) (Tab.fresh "ws://target/api") moves tab ∧
        moves.map Move.action = hearsTwoEvents ∧
        lines tab.logger Element.outevt =
          eventLines wholeNumber 0 (eventsLogged moves) := by
  have hplayed : ((Tab.fresh "ws://target/api").afterAll? wholeNumber
      hearsTwoEvents).isSome = true := by
    decide +kernel
  rcases exists_run_of_isSome hplayed with ⟨moves, tab, hrun, hactions⟩
  exact ⟨moves, tab, hrun, hactions, (events_heard hrun).left⟩

end Console
end XdsService
