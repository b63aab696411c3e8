import Mathlib.Data.List.Perm.Basic
import XdsService.Foundation.Runs
import XdsService.Websock.Steps

/-!
# Calls and their answers

The page and the server exchange messages.  A call that was sent is known by its
ticket, the promise and the id of the call, and the ticket moves to the server
and back with the answer.  Tickets are book-keeping: the page sees the messages
alone.
-/

namespace XdsService
namespace Websock

open Foundation

/-!
## The system
-/

structure Ticket where
  promise : Nat
  id : String
deriving DecidableEq

/-- A message on its way to the page, with the ticket of the call it answers. -/
structure Delivery where
  message : Message
  ticket : Option Ticket

structure Net where
  page : Page
  toServer : List Ticket
  received : List Ticket
  toClient : List Delivery

def Net.fresh (token : Option Json) (onabort : Option Nat) : Net where
  page := Page.fresh token onabort
  toServer := []
  received := []
  toClient := []

/-- The calls that still await their answer. -/
def Net.outstanding (net : Net) : List Ticket :=
  net.toServer ++ net.received ++ net.toClient.filterMap Delivery.ticket

inductive NetAction where
  | call (method : String) (request : Json)
  | receive (ticket : Ticket)
  | answer (ticket : Ticket) (code : Int) (ans token : Option Json)
  | event (m : Message)
  | deliver (delivery : Delivery)
  | onevent (name : String) (handler : Nat)

/--
The steps of page, server and wire.  The server may leave a call unanswered for
as long as it likes, and messages may overtake each other.
-/
inductive NetStep : Net -> NetAction -> Option Ticket -> Net -> Prop where
  | call {net : Net} {method : String} {request : Json} {ticket : Ticket}
      {page' : Page} :
      net.outstanding.length < idCount ->
      Handles net.page (Action.call Sending.sends method request)
        (some ticket.promise) page' ->
      page'.sent = net.page.sent ++
        [callMessage ticket.id method request net.page.token] ->
      NetStep net (NetAction.call method request) (some ticket)
        { net with page := page', toServer := net.toServer ++ [ticket] }
  | receive {net : Net} {ticket : Ticket} :
      ticket ∈ net.toServer ->
      NetStep net (NetAction.receive ticket) none
        { net with
          toServer := net.toServer.erase ticket
          received := net.received ++ [ticket] }
  | answer {net : Net} {ticket : Ticket} {code : Int}
      {ans token : Option Json} :
      ticket ∈ net.received ->
      code = retok ∨ code = reterr ->
      NetStep net (NetAction.answer ticket code ans token) none
        { net with
          received := net.received.erase ticket
          toClient := net.toClient ++
            [⟨⟨code, ticket.id, ans, token⟩, some ticket⟩] }
  | event {net : Net} {m : Message} :
      ¬ m.IsReply ->
      NetStep net (NetAction.event m) none
        { net with toClient := net.toClient ++ [⟨m, none⟩] }
  | deliver {net : Net} {delivery : Delivery} {earlier later : List Delivery}
      {page' : Page} :
      net.toClient = earlier ++ delivery :: later ->
      Handles net.page (Action.message delivery.message) none page' ->
      NetStep net (NetAction.deliver delivery) none
        { net with page := page', toClient := earlier ++ later }
  | onevent {net : Net} {name : String} {handler : Nat} {page' : Page} :
      Handles net.page (Action.onevent name handler) none page' ->
      NetStep net (NetAction.onevent name handler) none
        { net with page := page' }

/-!
## What is wanted of a move
-/

/-- The message settles the promise, which was pending, and no other one. -/
structure SettlesOnly (page page' : Page) (m : Message) (promise : Nat) :
    Prop where
  before : page.promises[promise]? = some PromiseState.pending
  after : page'.promises[promise]? =
    some (if m.code = retok then PromiseState.fulfilled m.ans
      else PromiseState.rejected (Reason.answered m.ans))
  others : forall k, k ≠ promise -> page'.promises[k]? = page.promises[k]?

structure Correlated (move : Move Net NetAction (Option Ticket)) : Prop where
  freshId : forall method request,
    move.action = NetAction.call method request ->
      exists ticket, move.answer = some ticket ∧
        forall other, other ∈ move.before.outstanding ->
          other.id ≠ ticket.id
  settles : forall delivery,
    move.action = NetAction.deliver delivery -> delivery.message.IsReply ->
      exists ticket, delivery.ticket = some ticket ∧
        SettlesOnly move.before.page move.after.page delivery.message
          ticket.promise
  events : forall delivery,
    move.action = NetAction.deliver delivery ->
      ¬ delivery.message.IsReply ->
        move.after.page.pendings = move.before.page.pendings ∧
          move.after.page.promises = move.before.page.promises

/-!
## The table of pending calls
-/

/-- The page has an entry and a pending promise for exactly these tickets. -/
structure Tracks (page : Page) (tickets : List Ticket) : Prop where
  ids : (tickets.map Ticket.id).Nodup
  promises : (tickets.map Ticket.promise).Nodup
  entry : forall ticket, ticket ∈ tickets ->
    page.pendings.lookup ticket.id = some (callEntry ticket.promise)
  ticketed : forall id, id ∈ page.pendings ->
    id ∈ tickets.map Ticket.id
  pending : forall ticket, ticket ∈ tickets ->
    page.promises[ticket.promise]? = some PromiseState.pending
  calledOnce : (page.called.map fun call => call.1.promise).Nodup
  settled : forall call, call ∈ page.called ->
    exists state, page.promises[call.1.promise]? = some state ∧
      state ≠ PromiseState.pending

variable {page page' : Page} {tickets tickets' : List Ticket}
variable {ticket : Ticket} {m : Message}

theorem tracks_fresh (token : Option Json) (onabort : Option Nat) :
    Tracks (Page.fresh token onabort) [] where
  ids := List.nodup_nil
  promises := List.nodup_nil
  entry := by
    intro ticket hmem
    cases hmem
  ticketed := by
    intro id hmem
    exact absurd hmem (AList.notMem_empty id)
  pending := by
    intro ticket hmem
    cases hmem
  calledOnce := List.nodup_nil
  settled := by
    intro call hmem
    cases hmem

theorem Tracks.perm (h : Tracks page tickets)
    (hperm : tickets.Perm tickets') : Tracks page tickets' where
  ids := (hperm.map _).nodup_iff.mp h.ids
  promises := (hperm.map _).nodup_iff.mp h.promises
  entry := fun ticket hmem => h.entry ticket (hperm.mem_iff.mpr hmem)
  ticketed := fun id hmem => (hperm.map _).mem_iff.mp (h.ticketed id hmem)
  pending := fun ticket hmem => h.pending ticket (hperm.mem_iff.mpr hmem)
  calledOnce := h.calledOnce
  settled := h.settled

theorem Tracks.of_sameCalls (h : Tracks page tickets)
    (hsame : SameCalls page page') : Tracks page' tickets := by
  rcases h with ⟨hids, hpromises, hentry, hticketed, hpending, honce, hsettled⟩
  rw [← hsame.pendings] at hentry hticketed
  rw [← hsame.promises] at hpending hsettled
  rw [← hsame.called] at honce hsettled
  exact ⟨hids, hpromises, hentry, hticketed, hpending, honce, hsettled⟩

theorem Tracks.promise_lt (h : Tracks page tickets)
    (hmem : ticket ∈ tickets) : ticket.promise < page.promises.length :=
  (List.getElem?_eq_some_iff.mp (h.pending ticket hmem)).1

theorem Tracks.keys_length_le (h : Tracks page tickets) :
    page.pendings.keys.length ≤ tickets.length := by
  have hsubset : page.pendings.keys ⊆ tickets.map Ticket.id :=
    fun id hid => h.ticketed id (AList.mem_keys.mpr hid)
  have hle := (List.subperm_of_subset page.pendings.keys_nodup hsubset).length_le
  rw [List.length_map] at hle
  exact hle

theorem Tracks.notMem_ids (h : Tracks page tickets) {id : String}
    (hfree : id ∉ page.pendings) : id ∉ tickets.map Ticket.id := by
  intro hmem
  rcases List.mem_map.mp hmem with ⟨ticket, hticket, rfl⟩
  exact hfree (AList.lookup_isSome.mp (by rw [h.entry ticket hticket]; rfl))

theorem Tracks.afterCall (h : Tracks page tickets) {counter : Nat}
    (hchosen : chooseId page.pendings idCount page.counter = some counter)
    (method : String) (request : Json) :
    Tracks (page.afterCall Sending.sends method request counter)
      (⟨page.promises.length, indexName counter⟩ :: tickets) := by
  have hfree := h.notMem_ids (chooseId_eq_some hchosen).right
  constructor
  · exact List.nodup_cons.mpr ⟨hfree, h.ids⟩
  · refine List.nodup_cons.mpr ⟨?_, h.promises⟩
    intro hmem
    rcases List.mem_map.mp hmem with ⟨ticket, hticket, hpromise⟩
    have hlt := h.promise_lt hticket
    exact absurd hpromise (Nat.ne_of_lt hlt)
  · intro ticket hmem
    apply lookup_afterCall_iff.mpr
    rcases List.mem_cons.mp hmem with rfl | hmem
    · exact Or.inl ⟨rfl, rfl⟩
    · right
      refine ⟨?_, h.entry ticket hmem⟩
      intro heq
      exact hfree (heq ▸ List.mem_map_of_mem hmem)
  · intro id hmem
    rcases (AList.mem_insert page.pendings).mp hmem with rfl | hmem
    · exact List.mem_cons_self
    · exact List.mem_cons_of_mem _ (h.ticketed id hmem)
  · intro ticket hmem
    rcases List.mem_cons.mp hmem with rfl | hmem
    · exact promises_afterCall_last
    · exact promises_afterCall_of_some (h.pending ticket hmem)
  · exact h.calledOnce
  · intro call hmem
    rcases h.settled call hmem with ⟨state, hstate, hne⟩
    exact ⟨state, promises_afterCall_of_some hstate, hne⟩

/-- What a function of a pending promise makes of it. -/
theorem settle_callback (m : Message) (promise : Nat) :
    settle (m.callback promise) m.ans PromiseState.pending =
      if m.code = retok then PromiseState.fulfilled m.ans
      else PromiseState.rejected (Reason.answered m.ans) := by
  unfold Message.callback
  split
  · rfl
  · rfl

theorem Tracks.settlesOnly (h : Tracks page (ticket :: tickets))
    (hsettles : Settles page page' m ticket.promise) :
    SettlesOnly page page' m ticket.promise where
  before := h.pending ticket List.mem_cons_self
  after := by
    rw [hsettles.promises, List.getElem?_modify_eq,
      h.pending ticket List.mem_cons_self, ← settle_callback]
    rfl
  others := fun _ hne => promises_of_settles hsettles hne

theorem Tracks.called_ne (h : Tracks page tickets) (hmem : ticket ∈ tickets)
    {call : Callback × Option Json} (hcall : call ∈ page.called) :
    call.1.promise ≠ ticket.promise := by
  intro heq
  rcases h.settled call hcall with ⟨state, hstate, hne⟩
  rw [heq, h.pending ticket hmem] at hstate
  exact hne (Option.some.inj hstate).symm

theorem Tracks.settle (h : Tracks page (ticket :: tickets))
    (hid : m.id = ticket.id)
    (hsettles : Settles page page' m ticket.promise) :
    Tracks page' tickets := by
  have honly := h.settlesOnly hsettles
  have hids := List.nodup_cons.mp h.ids
  have hpromises := List.nodup_cons.mp h.promises
  constructor
  · exact hids.right
  · exact hpromises.right
  · intro other hmem
    apply (lookup_of_settles_iff hsettles).mpr
    refine ⟨?_, h.entry other (List.mem_cons_of_mem _ hmem)⟩
    intro heq
    rw [hid] at heq
    exact hids.left (heq ▸ List.mem_map_of_mem hmem)
  · intro id hmem
    rw [hsettles.pendings, AList.mem_erase, hid] at hmem
    rcases List.mem_cons.mp (h.ticketed id hmem.right) with heq | hrest
    · exact absurd heq hmem.left
    · exact hrest
  · intro other hmem
    have hne : other.promise ≠ ticket.promise :=
      fun heq => hpromises.left (heq ▸ List.mem_map_of_mem hmem)
    rw [honly.others _ hne]
    exact h.pending other (List.mem_cons_of_mem _ hmem)
  · rw [hsettles.called, List.map_append, List.map_singleton, promise_callback]
    refine List.nodup_append.mpr ⟨h.calledOnce, List.nodup_singleton _, ?_⟩
    intro promise hmem other hother heq
    rw [List.mem_singleton.mp hother] at heq
    rcases List.mem_map.mp hmem with ⟨call, hcall, rfl⟩
    exact h.called_ne List.mem_cons_self hcall heq
  · intro call hmem
    rw [hsettles.called] at hmem
    rcases List.mem_append.mp hmem with hmem | hmem
    · rcases h.settled call hmem with ⟨state, hstate, hne⟩
      have hother := h.called_ne List.mem_cons_self hmem
      exact ⟨state, (honly.others _ hother).trans hstate, hne⟩
    · rw [List.mem_singleton.mp hmem, promise_callback]
      refine ⟨_, honly.after, fun hstate => ?_⟩
      exact not_pending_of_settles hsettles
        (honly.after.trans (congrArg some hstate))

/-!
## Runs of the system
-/

/-- A reply carries the id of its ticket, and only replies have a ticket. -/
def Delivery.Matches (delivery : Delivery) : Prop :=
  match delivery.ticket with
  | some ticket => delivery.message.IsReply ∧ delivery.message.id = ticket.id
  | none => ¬ delivery.message.IsReply

structure NetInv (net : Net) : Prop where
  tracks : Tracks net.page net.outstanding
  deliveries : forall delivery, delivery ∈ net.toClient -> delivery.Matches

theorem netInv_fresh (token : Option Json) (onabort : Option Nat) :
    NetInv (Net.fresh token onabort) where
  tracks := tracks_fresh token onabort
  deliveries := by
    intro delivery hmem
    cases hmem

variable {net net' : Net} {action : NetAction} {answer : Option Ticket}

/-- The ticket of a call is read off the message that the call sent. -/
theorem call_of_handles {method : String} {request : Json}
    (hhandles : Handles page (Action.call Sending.sends method request)
      (some ticket.promise) page')
    (hsent : page'.sent =
      page.sent ++ [callMessage ticket.id method request page.token]) :
    exists counter,
      chooseId page.pendings idCount page.counter = some counter ∧
        ticket = ⟨page.promises.length, indexName counter⟩ ∧
        page' = page.afterCall Sending.sends method request counter := by
  rcases handles_call hhandles with ⟨counter, hchosen, hanswer, rfl⟩
  have hmessage := List.singleton_injective (List.append_cancel_left hsent)
  have hid := callMessage_injective hmessage
  have hpromise := Option.some.inj hanswer
  exact ⟨counter, hchosen, by cases ticket; simp_all, rfl⟩

theorem outstanding_perm_of_deliver {delivery : Delivery}
    {earlier later : List Delivery}
    (hclient : net.toClient = earlier ++ delivery :: later) (page' : Page) :
    net.outstanding.Perm (delivery.ticket.toList ++
      Net.outstanding { net with
        page := page', toClient := earlier ++ later }) := by
  apply List.perm_iff_count.mpr
  intro ticket
  cases hticket : delivery.ticket with
  | none =>
      simp [Net.outstanding, hclient, List.filterMap_append, hticket]
  | some other =>
      simp only [Net.outstanding, hclient, List.filterMap_append,
        List.filterMap_cons, hticket, List.count_append, List.count_cons,
        Option.toList_some, List.count_nil]
      omega

theorem count_erase_add {items : List Ticket} (h : ticket ∈ items)
    (other : Ticket) :
    (items.erase ticket).count other + [ticket].count other =
      items.count other := by
  have hperm := List.perm_iff_count.mp (List.perm_cons_erase h) other
  rw [← List.singleton_append, List.count_append] at hperm
  omega

theorem entry_of_delivery {delivery : Delivery} (hinv : NetInv net)
    (hmem : delivery ∈ net.toClient) (hticket : delivery.ticket = some ticket) :
    delivery.message.IsReply ∧ delivery.message.id = ticket.id ∧
      net.page.pendings.lookup delivery.message.id =
        some (callEntry ticket.promise) := by
  have hmatches := hinv.deliveries delivery hmem
  unfold Delivery.Matches at hmatches
  rw [hticket] at hmatches
  rcases hmatches with ⟨hreply, hid⟩
  refine ⟨hreply, hid, hid ▸ hinv.tracks.entry ticket ?_⟩
  exact List.mem_append_right _
    (List.mem_filterMap.mpr ⟨delivery, hmem, hticket⟩)

theorem settles_of_deliver {delivery : Delivery}
    {earlier later : List Delivery} (hinv : NetInv net)
    (hclient : net.toClient = earlier ++ delivery :: later)
    (hticket : delivery.ticket = some ticket)
    (hhandles : Handles net.page (Action.message delivery.message) none page') :
    Tracks net.page (ticket :: Net.outstanding { net with
        page := page', toClient := earlier ++ later }) ∧
      delivery.message.id = ticket.id ∧
      Settles net.page page' delivery.message ticket.promise := by
  have hperm := outstanding_perm_of_deliver hclient page'
  rw [hticket] at hperm
  rcases entry_of_delivery hinv (by simp [hclient]) hticket with
    ⟨hreply, hid, hentry⟩
  exact ⟨hinv.tracks.perm hperm, hid,
    handles_message_of_entry hreply hentry hhandles⟩

theorem Delivery.Matches.not_isReply {delivery : Delivery}
    (h : delivery.Matches) (hticket : delivery.ticket = none) :
    ¬ delivery.message.IsReply := by
  unfold Delivery.Matches at h
  rw [hticket] at h
  exact h

theorem netInv_deliver {delivery : Delivery} {earlier later : List Delivery}
    (hinv : NetInv net) (hclient : net.toClient = earlier ++ delivery :: later)
    (hhandles : Handles net.page (Action.message delivery.message) none page') :
    NetInv { net with page := page', toClient := earlier ++ later } := by
  constructor
  · cases hticket : delivery.ticket with
    | some ticket =>
        rcases settles_of_deliver hinv hclient hticket hhandles with
          ⟨htracks, hid, hsettles⟩
        exact htracks.settle hid hsettles
    | none =>
        have hperm := outstanding_perm_of_deliver hclient page'
        rw [hticket] at hperm
        have hmatches := hinv.deliveries delivery (by simp [hclient])
        have hother := hmatches.not_isReply hticket
        exact (hinv.tracks.perm hperm).of_sameCalls
          (handles_message_of_other (fun hreply => absurd hreply hother)
            hhandles)
  · intro other hmem
    apply hinv.deliveries
    rw [hclient]
    rcases List.mem_append.mp hmem with hearlier | hlater
    · exact List.mem_append_left _ hearlier
    · exact List.mem_append_right _ (List.mem_cons_of_mem _ hlater)

theorem netInv_step (hinv : NetInv net)
    (hstep : NetStep net action answer net') : NetInv net' := by
  cases hstep with
  | call hfew hhandles hsent =>
      rcases call_of_handles hhandles hsent with ⟨counter, hchosen, rfl, rfl⟩
      refine ⟨(hinv.tracks.afterCall hchosen _ _).perm ?_, hinv.deliveries⟩
      apply List.perm_iff_count.mpr
      intro other
      simp only [Net.outstanding, List.count_append, List.count_cons,
        List.count_nil]
      omega
  | receive hmem =>
      refine ⟨hinv.tracks.perm ?_, hinv.deliveries⟩
      apply List.perm_iff_count.mpr
      intro other
      have hcount := count_erase_add hmem other
      simp only [Net.outstanding, List.count_append]
      omega
  | answer hmem hcode =>
      constructor
      · refine hinv.tracks.perm (List.perm_iff_count.mpr ?_)
        intro other
        have hcount := count_erase_add hmem other
        simp only [Net.outstanding, List.filterMap_append,
          List.filterMap_cons, List.filterMap_nil, List.count_append]
        omega
      · intro delivery hdelivery
        rcases List.mem_append.mp hdelivery with hold | hnew
        · exact hinv.deliveries delivery hold
        · rw [List.mem_singleton.mp hnew]
          exact ⟨hcode, rfl⟩
  | event hevent =>
      constructor
      · have hsame := hinv.tracks
        simpa [Net.outstanding] using hsame
      · intro delivery hdelivery
        rcases List.mem_append.mp hdelivery with hold | hnew
        · exact hinv.deliveries delivery hold
        · rw [List.mem_singleton.mp hnew]
          exact hevent
  | deliver hclient hhandles => exact netInv_deliver hinv hclient hhandles
  | onevent hhandles =>
      exact ⟨hinv.tracks.of_sameCalls (handles_onevent hhandles),
        hinv.deliveries⟩

theorem correlated_of_netInv (hinv : NetInv net)
    (hstep : NetStep net action answer net') :
    Correlated ⟨net, action, answer, net'⟩ := by
  constructor
  · intro method request haction
    cases haction
    cases hstep with
    | call _ hhandles hsent =>
        rcases call_of_handles hhandles hsent with ⟨counter, hchosen, rfl, _⟩
        refine ⟨_, rfl, fun other hmem heq => ?_⟩
        have hfree := (chooseId_eq_some hchosen).right
        exact hinv.tracks.notMem_ids hfree (List.mem_map.mpr ⟨other, hmem, heq⟩)
  · intro delivery haction hreply
    cases haction
    cases hstep with
    | deliver hclient hhandles =>
        cases hticket : delivery.ticket with
        | some ticket =>
            rcases settles_of_deliver hinv hclient hticket hhandles with
              ⟨htracks, _, hsettles⟩
            exact ⟨ticket, rfl, htracks.settlesOnly hsettles⟩
        | none =>
            have hmatches := hinv.deliveries delivery (by simp [hclient])
            exact absurd hreply (hmatches.not_isReply hticket)
  · intro delivery haction hevent
    cases haction
    cases hstep with
    | deliver _ hhandles =>
        have hsame := handles_message_of_other
          (fun hreply => absurd hreply hevent) hhandles
        exact ⟨hsame.pendings, hsame.promises⟩

theorem netStep_call {counter : Nat}
    (hfew : net.outstanding.length < idCount)
    (hchosen : chooseId net.page.pendings idCount net.page.counter =
      some counter)
    (method : String) (request : Json) :
    NetStep net (NetAction.call method request)
      (some ⟨net.page.promises.length, indexName counter⟩)
      { net with
        page := net.page.afterCall Sending.sends method request counter
        toServer := net.toServer ++
          [⟨net.page.promises.length, indexName counter⟩] } :=
  NetStep.call hfew (handles_call_of_chosen hchosen _ _ _) rfl

/-- While fewer than 4096 calls are outstanding a further call ends. -/
theorem exists_call (htracks : Tracks net.page net.outstanding)
    (hfew : net.outstanding.length < idCount) (method : String)
    (request : Json) :
    exists ticket net',
      NetStep net (NetAction.call method request) (some ticket) net' := by
  have hkeys := Nat.lt_of_le_of_lt htracks.keys_length_le hfew
  rcases exists_chooseId hkeys net.page.counter with ⟨counter, hchosen⟩
  exact ⟨_, _, netStep_call hfew hchosen method request⟩

theorem exists_deliver {delivery : Delivery} {earlier later : List Delivery}
    (hinv : NetInv net)
    (hclient : net.toClient = earlier ++ delivery :: later) :
    exists page', NetStep net (NetAction.deliver delivery) none
      { net with page := page', toClient := earlier ++ later } := by
  have hmem : delivery ∈ net.toClient := by simp [hclient]
  cases hticket : delivery.ticket with
  | some ticket =>
      rcases entry_of_delivery hinv hmem hticket with ⟨hreply, _, hentry⟩
      rcases exists_handles_of_entry hreply hentry with ⟨page', hhandles, _⟩
      exact ⟨page', NetStep.deliver hclient hhandles⟩
  | none =>
      have hother := (hinv.deliveries delivery hmem).not_isReply hticket
      rcases exists_handles_of_other
        (fun hreply => absurd hreply hother) with ⟨page', hhandles, _⟩
      exact ⟨page', NetStep.deliver hclient hhandles⟩

/--
Over every run, a new call has an id of its own, a reply settles the promise of
the call it answers and no other, and events leave the calls alone; no promise
is settled twice, and neither calls nor deliveries get stuck.
-/
theorem replies_correlate {token : Option Json} {onabort : Option Nat}
    {moves : List (Move Net NetAction (Option Ticket))}
    (hrun : Run NetStep (Net.fresh token onabort) moves net) :
    (forall move, move ∈ moves -> Correlated move) ∧
      (net.page.called.map fun call => call.1.promise).Nodup ∧
      (net.outstanding.length < idCount -> forall method request,
        exists ticket net',
          NetStep net (NetAction.call method request) (some ticket) net') ∧
      (forall delivery, delivery ∈ net.toClient ->
        exists net', NetStep net (NetAction.deliver delivery) none net') := by
  have hfresh := netInv_fresh token onabort
  have hinv := Run.invariant (I := NetInv) hfresh netInv_step hrun
  refine ⟨?_, hinv.tracks.calledOnce, exists_call hinv.tracks, ?_⟩
  · exact Run.forall_moves (I := NetInv) hfresh netInv_step
      correlated_of_netInv hrun
  · intro delivery hmem
    rcases List.append_of_mem hmem with ⟨earlier, later, hclient⟩
    rcases exists_deliver hinv hclient with ⟨page', hstep⟩
    exact ⟨_, hstep⟩

/-!
## An exchange with crossed answers

Of two calls of one verb the second is answered first, and an event is on the
wire between the answers.
-/

def crossedAnswers : List NetAction :=
  [NetAction.call "list" Json.null,
    NetAction.call "list" Json.null,
    NetAction.receive ⟨0, "1"⟩,
    NetAction.receive ⟨1, "2"⟩,
    NetAction.answer ⟨1, "2"⟩ retok none none,
    NetAction.event ⟨5, "1", none, none⟩,
    NetAction.answer ⟨0, "1"⟩ reterr none none,
    NetAction.deliver ⟨⟨retok, "2", none, none⟩, some ⟨1, "2"⟩⟩,
    NetAction.deliver ⟨⟨5, "1", none, none⟩, none⟩,
    NetAction.deliver ⟨⟨reterr, "1", none, none⟩, some ⟨0, "1"⟩⟩]

theorem netStep_deliver_first {delivery : Delivery} {later : List Delivery}
    (hclient : net.toClient = delivery :: later)
    (hrun : (onmessage delivery.message).run net.page = .ok () page') :
    NetStep net (NetAction.deliver delivery) none
      { net with page := page', toClient := later } := by
  have hcut : net.toClient = [] ++ delivery :: later := hclient
  exact NetStep.deliver hcut (handles_message_of_ok hrun)

theorem exists_crossedAnswers :
    exists moves net,
      Run NetStep (Net.fresh none none) moves net ∧
        moves.map Move.action = crossedAnswers ∧
        net.page.promises = [PromiseState.rejected (Reason.answered none),
          PromiseState.fulfilled none] := by
  have hfirst : chooseId (Net.fresh none none).page.pendings idCount 0 =
      some 1 := by
    decide +kernel
  have hcall := Run.snoc Run.nil
    (netStep_call (by decide) hfirst "list" Json.null)
  have hsecond : chooseId ((Net.fresh none none).page.afterCall Sending.sends
      "list" Json.null 1).pendings idCount 1 = some 2 := by
    decide +kernel
  have hcalls := Run.snoc hcall
    (netStep_call (by decide) hsecond "list" Json.null)
  have hreceived := Run.snoc (Run.snoc hcalls
    (NetStep.receive List.mem_cons_self)) (NetStep.receive List.mem_cons_self)
  have hmem : (⟨1, "2"⟩ : Ticket) ∈ [(⟨0, "1"⟩ : Ticket), ⟨1, "2"⟩] := by
    decide
  have hanswer := Run.snoc hreceived
    (@NetStep.answer _ _ _ none none hmem (Or.inl rfl))
  have hevent : ¬ (⟨5, "1", none, none⟩ : Message).IsReply := by
    simp [Message.IsReply, retok, reterr]
  have hanswers := Run.snoc (Run.snoc hanswer (NetStep.event hevent))
    (@NetStep.answer _ _ _ none none List.mem_cons_self (Or.inr rfl))
  have hdelivered := Run.snoc (Run.snoc (Run.snoc hanswers
    (netStep_deliver_first rfl rfl)) (netStep_deliver_first rfl rfl))
    (netStep_deliver_first rfl rfl)
  exact ⟨_, _, hdelivered, rfl, rfl⟩

theorem replies_correlate_crossed :
    exists moves net,
      Run NetStep (Net.fresh none none) moves net ∧
        moves.map Move.action = crossedAnswers ∧
        net.page.promises = [PromiseState.rejected (Reason.answered none),
          PromiseState.fulfilled none] ∧
        (forall move, move ∈ moves -> Correlated move) ∧
        (net.page.called.map fun call => call.1.promise).Nodup := by
  rcases exists_crossedAnswers with ⟨moves, net, hrun, hactions, hpromises⟩
  have hcorrelate := replies_correlate hrun
  exact ⟨moves, net, hrun, hactions, hpromises, hcorrelate.left,
    hcorrelate.right.left⟩

end Websock
end XdsService
