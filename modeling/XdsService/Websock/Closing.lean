import XdsService.Foundation.Runs
import XdsService.Websock.Steps

/-!
# The end of the connection

`call` keeps the functions of a promise as an array, and `onclose` looks for a
property `onerror` of it, which an array does not have.  Closing therefore
settles nothing: the calls that wait for their answer then wait for ever.
-/

namespace XdsService
namespace Websock

open Foundation
open Program

/-!
## What onclose does
-/

def Page.afterClose (page : Page) : Page :=
  { page with
    pendings := ∅
    fired := page.fired ++ page.onclose.toList.map fun handler =>
      (handler, none) }

/-- An array of functions has no element with the name `onerror`. -/
theorem rejectEntry_eq_pure (entry : List Callback) :
    rejectEntry entry = pure () := by
  have hnone : elementNamed entry "onerror" = none :=
    elementNamed_eq_none (by decide) entry
  unfold rejectEntry
  rw [hnone]

theorem forM_rejectEntry
    (entries : List (Sigma fun _ : String => List Callback)) :
    (entries.forM fun entry => rejectEntry entry.2) = pure () := by
  induction entries with
  | nil => rfl
  | cons entry rest ih =>
      show (rejectEntry entry.2 >>= fun _ =>
        rest.forM fun entry => rejectEntry entry.2) = _
      rw [rejectEntry_eq_pure, ih]
      rfl

theorem run_onclose (page : Page) :
    onclose.run page = .ok () page.afterClose := by
  unfold onclose
  simp only [forM_rejectEntry]
  rfl

/-- No call made before the close is left unsettled. -/
structure Closed (page page' : Page) : Prop where
  emptied : page'.pendings = ∅
  rejected : forall id promise,
    page.pendings.lookup id = some (callEntry promise) ->
      exists reason,
        page'.promises[promise]? = some (PromiseState.rejected reason)
  settled : forall promise : Nat,
    page'.promises[promise]? ≠ some PromiseState.pending

/-!
## Calls that wait for their answer
-/

/-- The call whose message was sent with the id. -/
def SentAs (id : String) (move : Move Page Action (Option Nat)) : Prop :=
  exists method request token,
    move.action = Action.call Sending.sends method request ∧
      move.after.sent =
        move.before.sent ++ [callMessage id method request token]

def Answers (id : String) (move : Move Page Action (Option Nat)) : Prop :=
  exists m, move.action = Action.message m ∧ m.IsReply ∧ m.id = id

/-- There is an entry with a pending promise under the id. -/
def Page.Awaits (page : Page) (id : String) : Prop :=
  exists promise,
    page.pendings.lookup id = some (callEntry promise) ∧
      page.promises[promise]? = some PromiseState.pending

/-- Every entry belongs to one call, which waits or whose sending threw. -/
structure Table (page : Page) : Prop where
  entry : forall id entry, page.pendings.lookup id = some entry ->
    exists promise, entry = callEntry promise ∧
      (page.promises[promise]? = some PromiseState.pending ∨
        page.promises[promise]? =
          some (PromiseState.rejected Reason.thrown))
  unique : forall id id' promise,
    page.pendings.lookup id = some (callEntry promise) ->
      page.pendings.lookup id' = some (callEntry promise) -> id = id'
  entered : forall promise : Nat,
    page.promises[promise]? = some PromiseState.pending ->
      exists id, page.pendings.lookup id = some (callEntry promise)

variable {page page' : Page} {sending : Sending} {method : String}
variable {request : Json} {m : Message} {counter promise : Nat}

theorem table_fresh (token : Option Json) (onabort : Option Nat) :
    Table (Page.fresh token onabort) where
  entry := by
    intro id entry hlookup
    cases hlookup
  unique := by
    intro id id' promise hlookup
    cases hlookup
  entered := by
    intro promise hpending
    cases hpending

theorem Table.of_sameCalls (h : Table page) (hsame : SameCalls page page') :
    Table page' := by
  rcases h with ⟨hentry, hunique, hentered⟩
  rw [← hsame.pendings] at hentry hunique hentered
  rw [← hsame.promises] at hentry hentered
  exact ⟨hentry, hunique, hentered⟩

theorem Table.promise_lt (h : Table page) {id : String}
    (hlookup : page.pendings.lookup id = some (callEntry promise)) :
    promise < page.promises.length := by
  rcases h.entry id _ hlookup with ⟨other, heq, hstate⟩
  rw [callEntry_injective heq]
  rcases hstate with hstate | hstate
  · exact (List.getElem?_eq_some_iff.mp hstate).1
  · exact (List.getElem?_eq_some_iff.mp hstate).1

theorem callPromise_eq (sending : Sending) :
    callPromise sending = PromiseState.pending ∨
      callPromise sending = PromiseState.rejected Reason.thrown := by
  cases sending with
  | sends => exact Or.inl rfl
  | stringifyThrows => exact Or.inr rfl
  | sendThrows => exact Or.inr rfl

/-!
## Calls
-/

theorem Table.afterCall (h : Table page)
    (hfree : indexName counter ∉ page.pendings) :
    Table (page.afterCall sending method request counter) := by
  constructor
  · intro id entry hlookup
    rcases lookup_afterCall_iff.mp hlookup with ⟨rfl, rfl⟩ | ⟨_, hold⟩
    · refine ⟨page.promises.length, rfl, ?_⟩
      rw [promises_afterCall_last]
      exact (callPromise_eq sending).imp (congrArg some) (congrArg some)
    · rcases h.entry id entry hold with ⟨promise, hentry, hstate⟩
      exact ⟨promise, hentry, hstate.imp promises_afterCall_of_some
        promises_afterCall_of_some⟩
  · intro id id' promise hid hid'
    rcases lookup_afterCall_iff.mp hid with ⟨rfl, hnew⟩ | ⟨_, hold⟩
    · rcases lookup_afterCall_iff.mp hid' with ⟨rfl, _⟩ | ⟨_, hold'⟩
      · rfl
      · have hlt := h.promise_lt hold'
        rw [callEntry_injective hnew] at hlt
        exact absurd hlt (Nat.lt_irrefl _)
    · rcases lookup_afterCall_iff.mp hid' with ⟨rfl, hnew'⟩ | ⟨_, hold'⟩
      · have hlt := h.promise_lt hold
        rw [callEntry_injective hnew'] at hlt
        exact absurd hlt (Nat.lt_irrefl _)
      · exact h.unique id id' promise hold hold'
  · intro promise hpending
    rcases Nat.lt_trichotomy promise page.promises.length with
      hlt | rfl | hgt
    · have hold : page.promises[promise]? = some PromiseState.pending :=
        (List.getElem?_append_left hlt).symm.trans hpending
      rcases h.entered promise hold with ⟨id, hlookup⟩
      refine ⟨id, lookup_afterCall_iff.mpr (Or.inr ⟨?_, hlookup⟩)⟩
      rintro rfl
      rw [AList.lookup_eq_none.mpr hfree] at hlookup
      cases hlookup
    · exact ⟨indexName counter, lookup_afterCall_iff.mpr (Or.inl ⟨rfl, rfl⟩)⟩
    · have hlt := (List.getElem?_eq_some_iff.mp hpending).1
      simp [Page.afterCall] at hlt
      omega

theorem awaits_afterCall_iff (h : Table page)
    (hfree : indexName counter ∉ page.pendings) {id : String} :
    (page.afterCall sending method request counter).Awaits id <->
      (sending = Sending.sends ∧ id = indexName counter) ∨ page.Awaits id := by
  constructor
  · intro h
    rcases h with ⟨promise, hlookup, hpending⟩
    rcases lookup_afterCall_iff.mp hlookup with ⟨rfl, hnew⟩ | ⟨_, hold⟩
    · rw [callEntry_injective hnew, promises_afterCall_last] at hpending
      cases sending with
      | sends => exact Or.inl ⟨rfl, rfl⟩
      | stringifyThrows => cases hpending
      | sendThrows => cases hpending
    · right
      refine ⟨promise, hold, ?_⟩
      rw [← hpending]
      exact (List.getElem?_append_left (h.promise_lt hold)).symm
  · intro h
    rcases h with ⟨rfl, rfl⟩ | ⟨promise, hlookup, hpending⟩
    · exact ⟨page.promises.length, lookup_afterCall_iff.mpr (Or.inl ⟨rfl, rfl⟩),
        promises_afterCall_last⟩
    · refine ⟨promise, lookup_afterCall_iff.mpr (Or.inr ⟨?_, hlookup⟩),
        promises_afterCall_of_some hpending⟩
      rintro rfl
      rw [AList.lookup_eq_none.mpr hfree] at hlookup
      cases hlookup

/-!
## Messages
-/

theorem Table.of_settles (h : Table page)
    (hlookup : page.pendings.lookup m.id = some (callEntry promise))
    (hsettles : Settles page page' m promise) : Table page' := by
  constructor
  · intro id entry hid
    rcases (lookup_of_settles_iff hsettles).mp hid with ⟨hne, hold⟩
    rcases h.entry id entry hold with ⟨other, rfl, hstate⟩
    have hother : other ≠ promise := by
      rintro rfl
      exact hne (h.unique _ _ _ hold hlookup)
    refine ⟨other, rfl, ?_⟩
    rw [promises_of_settles hsettles hother]
    exact hstate
  · intro id id' other hid hid'
    have hold := (lookup_of_settles_iff hsettles).mp hid
    have hold' := (lookup_of_settles_iff hsettles).mp hid'
    exact h.unique id id' other hold.right hold'.right
  · intro other hpending
    have hother : other ≠ promise := by
      rintro rfl
      exact not_pending_of_settles hsettles hpending
    rw [promises_of_settles hsettles hother] at hpending
    rcases h.entered other hpending with ⟨id, hid⟩
    refine ⟨id, (lookup_of_settles_iff hsettles).mpr ⟨?_, hid⟩⟩
    rintro rfl
    rw [hid] at hlookup
    exact hother (callEntry_injective (Option.some.inj hlookup))

theorem awaits_of_settles_iff (h : Table page)
    (hlookup : page.pendings.lookup m.id = some (callEntry promise))
    (hsettles : Settles page page' m promise) {id : String} :
    page'.Awaits id <-> page.Awaits id ∧ id ≠ m.id := by
  constructor
  · intro h
    rcases h with ⟨other, hid, hpending⟩
    have hold := (lookup_of_settles_iff hsettles).mp hid
    have hother : other ≠ promise := by
      rintro rfl
      exact not_pending_of_settles hsettles hpending
    rw [promises_of_settles hsettles hother] at hpending
    exact ⟨⟨other, hold.right, hpending⟩, hold.left⟩
  · intro h
    rcases h with ⟨⟨other, hid, hpending⟩, hne⟩
    have hother : other ≠ promise := by
      rintro rfl
      exact hne (h.unique _ _ _ hid hlookup)
    refine ⟨other, (lookup_of_settles_iff hsettles).mpr ⟨hne, hid⟩, ?_⟩
    rw [promises_of_settles hsettles hother]
    exact hpending

theorem awaits_of_sameCalls_iff (hsame : SameCalls page page') {id : String} :
    page'.Awaits id <-> page.Awaits id := by
  unfold Page.Awaits
  rw [hsame.pendings, hsame.promises]

/-!
## Runs
-/

/-- The entries that wait are those of the calls that were not answered. -/
structure Waits (moves : List (Move Page Action (Option Nat))) (page : Page) :
    Prop where
  table : Table page
  awaits : forall id,
    page.Awaits id <-> LastSince (SentAs id) (Answers id) moves

variable {moves : List (Move Page Action (Option Nat))} {answer : Option Nat}

theorem sentAs_call_iff {id : String} :
    SentAs id ⟨page, Action.call sending method request, answer,
        page.afterCall sending method request counter⟩ <->
      sending = Sending.sends ∧ id = indexName counter := by
  constructor
  · intro h
    rcases h with ⟨method', request', token, haction, hsent⟩
    injection haction with hsending _ _
    subst hsending
    have hmessage := List.singleton_injective (List.append_cancel_left hsent)
    exact ⟨rfl, (callMessage_injective hmessage).symm⟩
  · intro h
    rcases h with ⟨rfl, rfl⟩
    exact ⟨method, request, page.token, rfl, rfl⟩

theorem answers_message_iff {id : String} :
    Answers id ⟨page, Action.message m, answer, page'⟩ <->
      m.IsReply ∧ m.id = id := by
  constructor
  · intro h
    rcases h with ⟨m', haction, hanswers⟩
    cases haction
    exact hanswers
  · intro hanswers
    exact ⟨m, rfl, hanswers⟩

theorem waits_call (h : Waits moves page)
    (hhandles : Handles page (Action.call sending method request) answer
      page') :
    Waits (moves ++ [⟨page, Action.call sending method request, answer, page'⟩])
      page' := by
  rcases handles_call hhandles with ⟨counter, hchosen, _, rfl⟩
  have hfree := (chooseId_eq_some hchosen).right
  refine ⟨h.table.afterCall hfree, ?_⟩
  intro id
  rw [awaits_afterCall_iff h.table hfree]
  by_cases hsent : sending = Sending.sends ∧ id = indexName counter
  · exact iff_of_true (Or.inl hsent)
      (lastSince_snoc_of_opened (sentAs_call_iff.mpr hsent))
  · have hanswers : ¬ Answers id ⟨page, Action.call sending method request,
        answer, page.afterCall sending method request counter⟩ := by
      intro h
      rcases h with ⟨m, haction, _⟩
      cases haction
    rw [lastSince_snoc_of_not_opened (mt sentAs_call_iff.mp hsent),
      ← h.awaits id]
    simp only [hsent, hanswers, false_or, not_false_eq_true, and_true]

/-- A move that sends no call leaves what it does not answer. -/
theorem awaits_snoc_iff (h : Waits moves page)
    {move : Move Page Action (Option Nat)} {id : String}
    (hsent : ¬ SentAs id move)
    (hawaits : page'.Awaits id <-> page.Awaits id ∧ ¬ Answers id move) :
    page'.Awaits id <->
      LastSince (SentAs id) (Answers id) (moves ++ [move]) := by
  rw [lastSince_snoc_of_not_opened hsent, ← h.awaits id]
  exact hawaits

theorem waits_message (h : Waits moves page)
    (hhandles : Handles page (Action.message m) answer page') :
    Waits (moves ++ [⟨page, Action.message m, answer, page'⟩]) page' := by
  have hsent : forall id,
      ¬ SentAs id ⟨page, Action.message m, answer, page'⟩ := by
    intro id h
    rcases h with ⟨_, _, _, haction, _⟩
    cases haction
  by_cases hmem : m.IsReply ∧ m.id ∈ page.pendings
  · rcases Option.isSome_iff_exists.mp (AList.lookup_isSome.mpr hmem.right)
      with ⟨entry, hlookup⟩
    rcases h.table.entry _ _ hlookup with ⟨promise, rfl, _⟩
    have hsettles := handles_message_of_entry hmem.left hlookup hhandles
    refine ⟨h.table.of_settles hlookup hsettles, fun id => ?_⟩
    refine awaits_snoc_iff h (hsent id) ?_
    rw [awaits_of_settles_iff h.table hlookup hsettles, answers_message_iff]
    simp only [hmem.left, true_and, ne_eq, eq_comm]
  · have hsame := handles_message_of_other
      (fun hreply hin => hmem ⟨hreply, hin⟩) hhandles
    refine ⟨h.table.of_sameCalls hsame, fun id => ?_⟩
    refine awaits_snoc_iff h (hsent id) ?_
    rw [awaits_of_sameCalls_iff hsame, answers_message_iff]
    refine ⟨fun hwaits => ⟨hwaits, ?_⟩, And.left⟩
    intro h
    rcases h with ⟨hreply, rfl⟩
    rcases hwaits with ⟨promise, hlookup, _⟩
    exact hmem ⟨hreply, AList.lookup_isSome.mp (by rw [hlookup]; rfl)⟩

theorem waits_onevent (h : Waits moves page) {name : String} {handler : Nat}
    (hhandles : Handles page (Action.onevent name handler) answer page') :
    Waits (moves ++ [⟨page, Action.onevent name handler, answer, page'⟩])
      page' := by
  have hsame := handles_onevent hhandles
  refine ⟨h.table.of_sameCalls hsame, fun id => ?_⟩
  refine awaits_snoc_iff h ?_ ?_
  · intro h
    rcases h with ⟨_, _, _, haction, _⟩
    cases haction
  · rw [awaits_of_sameCalls_iff hsame]
    refine ⟨fun hwaits => ⟨hwaits, ?_⟩, And.left⟩
    intro h
    rcases h with ⟨_, haction, _⟩
    cases haction

theorem waits_of_run {token : Option Json} {onabort : Option Nat}
    (hrun : Run Handles (Page.fresh token onabort) moves page) :
    Waits moves page := by
  induction hrun with
  | nil =>
      refine ⟨table_fresh token onabort, fun id => ?_⟩
      refine iff_of_false ?_ not_lastSince_nil
      intro h
      rcases h with ⟨promise, hlookup, _⟩
      cases hlookup
  | @snoc moves page page' action answer _ hhandles ih =>
      cases action with
      | call sending method request => exact waits_call ih hhandles
      | message m => exact waits_message ih hhandles
      | onevent name handler => exact waits_onevent ih hhandles

/-!
## The close of a connection
-/

theorem closed_iff_of_table (h : Table page) :
    Closed page page.afterClose <-> forall id, ¬ page.Awaits id := by
  constructor
  · intro hclosed id h
    rcases h with ⟨promise, _, hpending⟩
    exact hclosed.settled promise hpending
  · intro hnone
    constructor
    · rfl
    · intro id promise hlookup
      rcases h.entry id _ hlookup with ⟨other, heq, hstate⟩
      rw [callEntry_injective heq] at hlookup ⊢
      rcases hstate with hpending | hrejected
      · exact absurd ⟨other, hlookup, hpending⟩ (hnone id)
      · exact ⟨_, hrejected⟩
    · intro promise hpending
      rcases h.entered promise hpending with ⟨id, hlookup⟩
      exact hnone id ⟨promise, hlookup, hpending⟩

/--
`onclose` always returns; it leaves no call unsettled exactly if every call that
was sent had been answered before.
-/
theorem onclose_settles_iff {token : Option Json} {onabort : Option Nat}
    (hrun : Run Handles (Page.fresh token onabort) moves page) :
    exists page', onclose.run page = .ok () page' ∧
      (Closed page page' <->
        forall id, ¬ LastSince (SentAs id) (Answers id) moves) := by
  have hwaits := waits_of_run hrun
  refine ⟨page.afterClose, run_onclose page, ?_⟩
  rw [closed_iff_of_table hwaits.table]
  exact forall_congr' fun id => not_congr (hwaits.awaits id)

/-- A call is answered and the sending of a second one throws, then close. -/
theorem onclose_settles_iff_answered :
    exists moves page page',
      Run Handles (Page.fresh none none) moves page ∧
        moves.map Move.action =
          [Action.call Sending.sends "list" Json.null,
            Action.message ⟨retok, "1", none, none⟩,
            Action.call Sending.sendThrows "list" Json.null] ∧
        onclose.run page = .ok () page' ∧
        page'.promises = [PromiseState.fulfilled none,
          PromiseState.rejected Reason.thrown] ∧
        (Closed page page' <->
          forall id, ¬ LastSince (SentAs id) (Answers id) moves) := by
  have hfirst : chooseId (Page.fresh none none).pendings idCount 0 =
      some 1 := by
    decide +kernel
  have hcall := Run.snoc Run.nil
    (handles_call_of_chosen hfirst Sending.sends "list" Json.null)
  have hreply : Handles ((Page.fresh none none).afterCall Sending.sends "list"
      Json.null 1) (Action.message ⟨retok, "1", none, none⟩) none _ :=
    handles_message_of_ok rfl
  have hsecond : chooseId ∅ idCount 1 = some 2 := by
    decide +kernel
  have hcalls := Run.snoc (Run.snoc hcall hreply)
    (handles_call_of_chosen hsecond Sending.sendThrows "list" Json.null)
  rcases onclose_settles_iff hcalls with ⟨page', hclose, hiff⟩
  have hafter := (run_onclose _).symm.trans hclose
  injection hafter with _ hpage
  subst hpage
  exact ⟨_, _, _, hcalls, rfl, hclose, rfl, hiff⟩

/-- A call is sent and the connection closes: its promise stays pending. -/
theorem unsettled_after_close :
    exists moves page page',
      Run Handles (Page.fresh none none) moves page ∧
        moves.map Move.action =
          [Action.call Sending.sends "list" Json.null] ∧
        onclose.run page = .ok () page' ∧
        page'.pendings = ∅ ∧
        page'.promises = [PromiseState.pending] ∧
        ¬ Closed page page' := by
  have hfirst : chooseId (Page.fresh none none).pendings idCount 0 =
      some 1 := by
    decide +kernel
  have hcall := Run.snoc Run.nil
    (handles_call_of_chosen hfirst Sending.sends "list" Json.null)
  refine ⟨_, _, _, hcall, rfl, run_onclose _, rfl, rfl, ?_⟩
  intro hclosed
  exact hclosed.settled 0 rfl

end Websock
end XdsService
