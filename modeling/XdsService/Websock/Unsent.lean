import XdsService.Websock.Closing

/-!
# Calls that cannot be sent

`call` makes its entry in `pendings` before it builds and sends the message.
Where that throws, the promise is rejected, but the entry stays and keeps its id
taken.
-/

namespace XdsService
namespace Websock

open Foundation

/-- A call for which `JSON.stringify` or `ws.send` throws. -/
def Unsent (move : Move Page Action (Option Nat)) : Prop :=
  exists sending method request,
    move.action = Action.call sending method request ∧
      sending ≠ Sending.sends

/-- The promise is rejected and pendings is what it was. -/
structure Traceless (move : Move Page Action (Option Nat)) : Prop where
  rejected : exists promise, move.answer = some promise ∧
    move.after.promises[promise]? =
      some (PromiseState.rejected Reason.thrown)
  pendings : move.after.pendings = move.before.pendings

/-- The ids held are those of the calls that were sent and not yet answered. -/
def HoldsSent (moves : List (Move Page Action (Option Nat))) (page : Page) :
    Prop :=
  forall id,
    id ∈ page.pendings <-> LastSince (SentAs id) (Answers id) moves

structure LeavesNoTrace (moves : List (Move Page Action (Option Nat)))
    (page : Page) : Prop where
  unsent : forall move, move ∈ moves -> Unsent move -> Traceless move
  held : HoldsSent moves page

variable {page page' : Page} {sending : Sending} {method : String}
variable {request : Json} {m : Message} {counter promise : Nat}
variable {moves : List (Move Page Action (Option Nat))} {answer : Option Nat}

/-!
## One call
-/

theorem handles_unsent (hsending : sending ≠ Sending.sends)
    (h : Handles page (Action.call sending method request) answer page') :
    (exists promise, answer = some promise ∧
        page'.promises[promise]? =
          some (PromiseState.rejected Reason.thrown)) ∧
      exists id, id ∉ page.pendings ∧ id ∈ page'.pendings := by
  rcases handles_call h with ⟨counter, hchosen, hanswer, rfl⟩
  constructor
  · refine ⟨page.promises.length, hanswer, ?_⟩
    rw [promises_afterCall_last]
    cases sending with
    | sends => exact absurd rfl hsending
    | stringifyThrows => rfl
    | sendThrows => rfl
  · refine ⟨indexName counter, (chooseId_eq_some hchosen).right, ?_⟩
    exact (AList.mem_insert page.pendings).mpr (Or.inl rfl)

theorem not_traceless_of_unsent {action : Action}
    (hunsent : Unsent ⟨page, action, answer, page'⟩)
    (h : Handles page action answer page') :
    ¬ Traceless ⟨page, action, answer, page'⟩ := by
  rcases hunsent with ⟨sending, method, request, haction, hsending⟩
  cases haction
  rcases handles_unsent hsending h with ⟨_, id, hfree, hmem⟩
  intro htraceless
  have hpendings : page'.pendings = page.pendings := htraceless.pendings
  rw [hpendings] at hmem
  exact hfree hmem

/-!
## Runs without such calls
-/

theorem mem_of_awaits {id : String} (h : page.Awaits id) :
    id ∈ page.pendings := by
  rcases h with ⟨promise, hlookup, _⟩
  exact AList.lookup_isSome.mp (by rw [hlookup]; rfl)

def AllAwait (page : Page) : Prop :=
  forall id, id ∈ page.pendings -> page.Awaits id

theorem allAwait_call (htable : Table page) (hall : AllAwait page)
    (h : Handles page (Action.call Sending.sends method request) answer
      page') :
    AllAwait page' := by
  rcases handles_call h with ⟨counter, hchosen, _, rfl⟩
  have hfree := (chooseId_eq_some hchosen).right
  intro id hmem
  rw [awaits_afterCall_iff htable hfree]
  rcases (AList.mem_insert page.pendings).mp hmem with rfl | hold
  · exact Or.inl ⟨rfl, rfl⟩
  · exact Or.inr (hall id hold)

theorem AllAwait.of_sameCalls (hall : AllAwait page)
    (hsame : SameCalls page page') : AllAwait page' := by
  intro id hmem
  rw [hsame.pendings] at hmem
  exact (awaits_of_sameCalls_iff hsame).mpr (hall id hmem)

theorem allAwait_message (htable : Table page) (hall : AllAwait page)
    (h : Handles page (Action.message m) answer page') : AllAwait page' := by
  by_cases hreply : m.IsReply ∧ m.id ∈ page.pendings
  · rcases hall m.id hreply.right with ⟨promise, hlookup, _⟩
    have hsettles := handles_message_of_entry hreply.left hlookup h
    intro id hmem
    rw [hsettles.pendings, AList.mem_erase] at hmem
    rw [awaits_of_settles_iff htable hlookup hsettles]
    exact ⟨hall id hmem.right, hmem.left⟩
  · exact hall.of_sameCalls (handles_message_of_other
      (fun hcode hin => hreply ⟨hcode, hin⟩) h)

theorem allAwait_of_run {token : Option Json} {onabort : Option Nat}
    (hrun : Run Handles (Page.fresh token onabort) moves page)
    (hsent : forall move, move ∈ moves -> ¬ Unsent move) : AllAwait page := by
  induction hrun with
  | nil =>
      intro id hmem
      exact absurd hmem (AList.notMem_empty id)
  | @snoc moves page page' action answer hinit hhandles ih =>
      have hall := ih fun move hmove => hsent move (by simp [hmove])
      have htable := (waits_of_run hinit).table
      cases action with
      | call sending method request =>
          have hlast := hsent _ (List.mem_append_right _ List.mem_cons_self)
          have hsends : sending = Sending.sends := by
            by_contra hsending
            exact hlast ⟨sending, method, request, rfl, hsending⟩
          rw [hsends] at hhandles
          exact allAwait_call htable hall hhandles
      | message m => exact allAwait_message htable hall hhandles
      | onevent name handler =>
          exact hall.of_sameCalls (handles_onevent hhandles)

theorem not_leavesNoTrace_of_unsent {start : Page}
    {move : Move Page Action (Option Nat)}
    (hrun : Run Handles start moves page) (hmove : move ∈ moves)
    (hunsent : Unsent move) : ¬ LeavesNoTrace moves page := by
  have hnot := Run.forall_moves (I := fun _ => True)
    (P := fun move => Unsent move -> ¬ Traceless move) trivial
    (fun _ _ => trivial)
    (fun _ hhandles hunsent => not_traceless_of_unsent hunsent hhandles)
    hrun move hmove hunsent
  intro hleaves
  exact hnot (hleaves.unsent move hmove hunsent)

/--
A run leaves no trace of calls that could not be sent exactly if there were no
such calls.
-/
theorem leaves_no_trace_iff {token : Option Json} {onabort : Option Nat}
    (hrun : Run Handles (Page.fresh token onabort) moves page) :
    LeavesNoTrace moves page <->
      forall move, move ∈ moves -> ¬ Unsent move := by
  constructor
  · intro hleaves move hmove hunsent
    exact not_leavesNoTrace_of_unsent hrun hmove hunsent hleaves
  · intro hsent
    refine ⟨fun move hmove hunsent => absurd hunsent (hsent move hmove), ?_⟩
    intro id
    rw [← (waits_of_run hrun).awaits id]
    exact ⟨allAwait_of_run hrun hsent id, mem_of_awaits⟩

/-- A call that is answered leaves no trace, one that throws after it does. -/
theorem leaves_no_trace_iff_answered :
    exists moves page last page',
      Run Handles (Page.fresh none none) moves page ∧
        Run Handles (Page.fresh none none) (moves ++ [last]) page' ∧
        moves.map Move.action =
          [Action.call Sending.sends "list" Json.null,
            Action.message ⟨retok, "1", none, none⟩] ∧
        last.action = Action.call Sending.sendThrows "list" Json.null ∧
        LeavesNoTrace moves page ∧
        ¬ LeavesNoTrace (moves ++ [last]) page' := by
  have hchosen : chooseId (Page.fresh none none).pendings idCount 0 =
      some 1 := by
    decide +kernel
  have hcall := Run.snoc Run.nil
    (handles_call_of_chosen hchosen Sending.sends "list" Json.null)
  have hreply : Handles ((Page.fresh none none).afterCall Sending.sends "list"
      Json.null 1) (Action.message ⟨retok, "1", none, none⟩) none _ :=
    handles_message_of_ok rfl
  have hcalls := Run.snoc hcall hreply
  have hunsent := Run.snoc hcalls (handles_call_of_chosen
    (show chooseId _ idCount _ = some 2 by decide +kernel)
    Sending.sendThrows "list" Json.null)
  refine ⟨_, _, _, _, hcalls, hunsent, rfl, rfl, ?_, ?_⟩
  · apply (leaves_no_trace_iff hcalls).mpr
    intro move hmove hthrows
    rcases hthrows with ⟨sending, _, _, haction, hsending⟩
    simp only [List.nil_append, List.cons_append, List.mem_cons,
      List.not_mem_nil, or_false] at hmove
    rcases hmove with rfl | rfl
    · cases haction
      exact hsending rfl
    · cases haction
  · intro hleaves
    exact (leaves_no_trace_iff hunsent).mp hleaves _
      (List.mem_append_right _ List.mem_cons_self)
      ⟨Sending.sendThrows, "list", Json.null, rfl, by decide⟩

/-- The socket is not open: the promise is rejected and the id stays taken. -/
theorem trace_of_unsent_call :
    exists moves page,
      Run Handles (Page.fresh none none) moves page ∧
        moves.map Move.action =
          [Action.call Sending.sendThrows "list" Json.null] ∧
        page.promises = [PromiseState.rejected Reason.thrown] ∧
        page.sent = [] ∧ page.pendings.keys = ["1"] ∧
        ¬ LeavesNoTrace moves page := by
  have hchosen : chooseId (Page.fresh none none).pendings idCount 0 =
      some 1 := by
    decide +kernel
  have hcall := Run.snoc Run.nil
    (handles_call_of_chosen hchosen Sending.sendThrows "list" Json.null)
  have hunsent := not_leavesNoTrace_of_unsent hcall List.mem_cons_self
    ⟨Sending.sendThrows, "list", Json.null, rfl, by decide⟩
  exact ⟨_, _, hcall, rfl, rfl, rfl, rfl, hunsent⟩

end Websock
end XdsService
